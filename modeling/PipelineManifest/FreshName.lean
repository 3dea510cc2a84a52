/-!
Names that are not taken yet. A taken name gets the first of the endings `-2`, `-3`, … that makes it
free; among one more candidate than there are taken names one is always free.
-/

namespace PipelineManifest

def numbered (base : String) (n : Nat) : String := base ++ "-" ++ Nat.repr n

/-- As many numbered names as one more than the taken ones. -/
def candidates (taken : List String) (base : String) : List String :=
  (List.range (taken.length + 1)).map fun n => numbered base (n + 2)

/-- The name itself if it is free, else its first numbered form that is. -/
def freshName (taken : List String) (base : String) : String :=
  if base ∈ taken then ((candidates taken base).find? (· ∉ taken)).getD base else base

example : freshName [] "pusher" = "pusher" := by decide
example : freshName ["pusher", "pusher-2", "pusher-4"] "pusher" = "pusher-3" := by decide +kernel

end PipelineManifest
