import PipelineManifest.Text.Graphic

/-!
Quoted text, as descriptions of values show it: between quotes, with a backslash before what would
end it and the number of each character that cannot be shown.
-/

namespace PipelineManifest

namespace Text

/-- Quotes, backslashes, tabs, line ends and NUL have short forms; other characters are shown if
they are graphic. -/
def escape (c : Char) : List Char :=
  if c = '\t' then ['\\', 't']
  else if c = '\n' then ['\\', 'n']
  else if c = '\r' then ['\\', 'r']
  else if c = '\x00' then ['\\', '0']
  else if c = '\\' ∨ c = '"' then ['\\', c]
  else if isGraphic c then [c]
  else '\\' :: 'u' :: '{' :: (Nat.toDigits 16 c.toNat ++ ['}'])

/-- Text between quotes. -/
def quoted (text : String) : String := .ofList ('"' :: (text.toList.flatMap escape ++ ['"']))

example : quoted "a\"b'\n" = "\"a\\\"b'\\n\"" := by decide +kernel
example : quoted "it's\x7f" = "\"it's\\u\x7b7f\x7d\"" := by decide +kernel

end Text

end PipelineManifest
