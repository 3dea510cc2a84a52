import Mathlib.Data.List.Induction
import Mathlib.Logic.ExistsUnique
import PipelineManifest.Proofs.Environment.Rejection

/-!
# What is found under a reference

A reference is cut at its last dot, and the two parts are looked up in what earlier calls have
registered. The latest call for a pair counts, and calls for other pairs do not. They are only seen
by who asks for a function that is not there, since its module may be there from then on.

Results:
1. `splitReference_eq_ok_iff`: a reference is cut at its last dot, in the one way there is.
2. `Registry.resolve_register`, `Registry.resolve_fill`: what one call changes, and what is found
   after some calls.
3. `Pipeline.load_after`: what comes of loading a reference, and when later calls for other pairs
   make a difference.
4. `Pipeline.load_changed`: one that does.
-/

namespace PipelineManifest

/-! ## Definitions -/

/-- A reference consists of a path and of a name, and the last dot stands between them. -/
structure Refers (reference path name : String) : Prop where
  joined : reference = path ++ "." ++ name
  last : '.' ∉ name.toList

/-- A call that registers a function. -/
structure Registration where
  path : String
  name : String
  function : GraphFunction

namespace Registration

/-- The call is for the pair of a path and a name. -/
def isFor (path name : String) (call : Registration) : Bool :=
  call.path = path ∧ call.name = name

/-- The latest call for a pair. -/
def last? (calls : List Registration) (path name : String) : Option Registration :=
  calls.reverse.find? (isFor path name)

/-- What a look-up is to find after some calls. -/
def answer (calls : List Registration) (path name : String) : Except LoadError GraphFunction :=
  match last? calls path name with
  | some call => .ok call.function
  | none => .error (if ∃ call ∈ calls, call.path = path then .functionNotFound path name
    else .moduleNotFound path)

end Registration

/-- Makes some calls in order. -/
def Registry.fill (registry : Registry) (calls : List Registration) : Registry :=
  calls.foldl (fun registry call => registry.register call.path call.name call.function) registry

/-- What comes of loading a reference with the variables of a list, after some calls. -/
structure LoadedAfter (calls : List Registration) (reference : String) (entries : List Variable)
    (outcome : Except CompileError Pipeline) : Prop where
  invalid : outcome = .error (.invalidReference reference) ↔ '.' ∉ reference.toList
  pair : '.' ∈ reference.toList → ∃! pair : String × String, Refers reference pair.1 pair.2
  /-- The variables are set before anything is looked up. -/
  rejected : '.' ∈ reference.toList → ∀ earlier entry, Variable.Stops entries earlier entry →
    outcome = .error (.variableRejected entry)
  found : (∀ entry ∈ entries, entry.isValid) → ∀ path name, Refers reference path name →
    ∀ call, Registration.last? calls path name = some call →
      ∃ guard, outcome = .ok ⟨reference, call.function, guard⟩
  noFunction : (∀ entry ∈ entries, entry.isValid) → ∀ path name, Refers reference path name →
    (∃ call ∈ calls, call.path = path) → Registration.last? calls path name = none →
      outcome = .error (.load (.functionNotFound path name))
  noModule : (∀ entry ∈ entries, entry.isValid) → ∀ path name, Refers reference path name →
    (∀ call ∈ calls, call.path ≠ path) → outcome = .error (.load (.moduleNotFound path))

/-! ## References -/

theorem splitLast_append {c : Char} {behind : List Char} (last : c ∉ behind) (before : List Char) :
    splitLast c (before ++ c :: behind) = some (before, behind) := by
  induction before with
  | nil => rw [List.nil_append, splitLast, splitLast_eq_none_iff.2 last, if_pos rfl]
  | cons first between ih => rw [List.cons_append, splitLast, ih]

theorem splitLast_eq_some {c : Char} {text before behind : List Char}
    (split : splitLast c text = some (before, behind)) :
    text = before ++ c :: behind ∧ c ∉ behind := by
  induction text generalizing before with
  | nil => cases split
  | cons first rest ih =>
    rw [splitLast] at split
    cases later : splitLast c rest with
    | some parts =>
      rw [later] at split
      cases split
      obtain ⟨cut, last⟩ := ih later
      exact ⟨congrArg (first :: ·) cut, last⟩
    | none =>
      rw [later] at split
      by_cases here : first = c
      · rw [if_pos here] at split
        cases split
        exact ⟨congrArg (· :: behind) here, splitLast_eq_none_iff.1 later⟩
      · rw [if_neg here] at split
        cases split

theorem refers_iff {reference path name : String} : Refers reference path name ↔
    reference.toList = path.toList ++ '.' :: name.toList ∧ '.' ∉ name.toList := by
  have joined : reference = path ++ "." ++ name ↔
      reference.toList = path.toList ++ '.' :: name.toList := by
    rw [← String.toList_inj, String.toList_append, String.toList_append, List.append_assoc]
    rfl
  constructor
  · exact fun refers => ⟨joined.1 refers.joined, refers.last⟩
  · exact fun ⟨cut, last⟩ => ⟨joined.2 cut, last⟩

theorem splitReference_eq_ok_iff {reference path name : String} :
    splitReference reference = .ok (path, name) ↔ Refers reference path name := by
  rw [refers_iff, splitReference]
  constructor
  · intro split
    cases parts : splitLast '.' reference.toList with
    | none =>
      rw [parts] at split
      cases split
    | some pair =>
      rw [parts] at split
      cases split
      rw [String.toList_ofList, String.toList_ofList]
      exact splitLast_eq_some parts
  · rintro ⟨cut, last⟩
    rw [cut, splitLast_append last]
    dsimp only
    rw [String.ofList_toList, String.ofList_toList]

theorem existsUnique_refers {reference : String} (dotted : '.' ∈ reference.toList) :
    ∃! pair : String × String, Refers reference pair.1 pair.2 := by
  obtain ⟨path, name, split⟩ := Pipeline.splits_of_dot dotted
  refine ⟨(path, name), splitReference_eq_ok_iff.1 split, fun pair refers => ?_⟩
  exact Except.ok.inj ((splitReference_eq_ok_iff.2 refers).symm.trans split)

theorem Refers.dotted {reference path name : String} (refers : Refers reference path name) :
    '.' ∈ reference.toList := by
  rw [(refers_iff.1 refers).1]
  exact List.mem_append_right _ List.mem_cons_self

/-! ## Calls -/

namespace Registration

variable {calls : List Registration} {path name : String}

theorem isFor_iff {call : Registration} :
    call.isFor path name ↔ call.path = path ∧ call.name = name :=
  decide_eq_true_iff

theorem last?_append (more : List Registration) :
    last? (calls ++ more) path name = (last? more path name).or (last? calls path name) := by
  rw [last?, List.reverse_append, List.find?_append]
  rfl

theorem last?_eq_none_iff :
    last? calls path name = none ↔ ∀ call ∈ calls, ¬ call.isFor path name := by
  simp only [last?, List.find?_eq_none, List.mem_reverse]

theorem used_of_last? {call : Registration} (found : last? calls path name = some call) :
    ∃ call ∈ calls, call.path = path :=
  ⟨call, List.mem_reverse.1 (List.mem_of_find?_eq_some found),
    (isFor_iff.1 (List.find?_some found)).1⟩

theorem answer_concat (calls : List Registration) (call : Registration) (path name : String) :
    answer (calls ++ [call]) path name =
      if call.isFor path name then .ok call.function
      else if call.path = path then
        (answer calls path name).mapError fun _ => .functionNotFound path name
      else answer calls path name := by
  have used : (∃ other ∈ calls ++ [call], other.path = path) ↔
      (∃ other ∈ calls, other.path = path) ∨ call.path = path := by
    simp only [List.mem_append, List.mem_singleton, or_and_right, exists_or, exists_eq_left]
  unfold answer
  rw [last?_append, last?, List.reverse_singleton, List.find?_singleton]
  by_cases isFor : call.isFor path name
  · rw [if_pos isFor, if_pos isFor]
    rfl
  · rw [if_neg isFor, if_neg isFor, Option.none_or]
    cases last? calls path name with
    | some latest =>
      -- a call for the pair was there already
      dsimp only
      split <;> rfl
    | none =>
      dsimp only
      by_cases module : call.path = path
      · rw [if_pos (used.2 (.inr module)), if_pos module]
        rfl
      · rw [if_neg module]
        simp only [used, module, or_false]

/-- Later calls for other pairs are seen only if the module was not there. -/
theorem answer_append_iff {more : List Registration}
    (others : ∀ call ∈ more, ¬ call.isFor path name) :
    answer (calls ++ more) path name = answer calls path name ↔
      ((∃ call ∈ more, call.path = path) → ∃ call ∈ calls, call.path = path) := by
  have used : (∃ call ∈ calls ++ more, call.path = path) ↔
      (∃ call ∈ calls, call.path = path) ∨ ∃ call ∈ more, call.path = path := by
    simp only [List.mem_append, or_and_right, exists_or]
  unfold answer
  rw [last?_append, last?_eq_none_iff.2 others, Option.none_or]
  cases found : last? calls path name with
  | some call => exact iff_of_true rfl fun _ => used_of_last? found
  | none =>
    dsimp only
    simp only [used]
    by_cases before : ∃ call ∈ calls, call.path = path
    · simp only [before, true_or, imp_true_iff]
    · by_cases later : ∃ call ∈ more, call.path = path
      · simp [before, later]
      · simp [before, later]

end Registration

namespace Registry

/-- A call for the pair is found. Any other call in the module makes sure that the module is there.
-/
theorem resolve_register (registry : Registry) (call : Registration) (path name : String) :
    (registry.register call.path call.name call.function).resolve path name =
      if call.isFor path name then .ok call.function
      else if call.path = path then
        (registry.resolve path name).mapError fun _ => .functionNotFound path name
      else registry.resolve path name := by
  unfold resolve register
  dsimp only
  rw [Dictionary.find?_insert]
  by_cases module : call.path = path
  · rw [if_pos module, if_pos module]
    dsimp only
    rw [Dictionary.find?_insert]
    by_cases same : call.name = name
    · rw [if_pos same, if_pos (Registration.isFor_iff.2 ⟨module, same⟩)]
    · rw [if_neg same, if_neg fun isFor => same (Registration.isFor_iff.1 isFor).2, module]
      cases registry.modules.find? path with
      | none => rfl
      | some functions =>
        dsimp only [Option.getD]
        cases functions.find? name <;> rfl
  · rw [if_neg module, if_neg module, if_neg fun isFor => module (Registration.isFor_iff.1 isFor).1]

theorem resolve_fill (calls : List Registration) (path name : String) :
    (empty.fill calls).resolve path name = Registration.answer calls path name := by
  induction calls using List.reverseRecOn with
  | nil => rfl
  | append_singleton calls call ih =>
    rw [Registration.answer_concat, ← ih, fill, List.foldl_append]
    exact resolve_register (empty.fill calls) call path name

end Registry

/-! ## Loading -/

namespace Pipeline

open Registration

variable {σ : Type} [HasEnvironment σ]

/-- If all variables can be set, the look-up decides what comes of loading. -/
theorem load_eq_resolve {reference path name : String} (refers : Refers reference path name)
    {entries : List Variable} (valid : ∀ entry ∈ entries, entry.isValid) (state : σ) :
    ∃ guard, ∀ registry : Registry, (load registry reference entries state).2 =
      match registry.resolve path name with
      | .error error => .error (.load error)
      | .ok function => .ok ⟨reference, function, guard⟩ := by
  obtain ⟨guard, applied, -⟩ := Guard.apply_spec valid state
  refine ⟨guard, fun registry => ?_⟩
  rw [load_of_guard registry (splitReference_eq_ok_iff.2 refers) applied]
  cases registry.resolve path name <;> rfl

/-- Registries are told apart by what a look-up in them gives. -/
theorem load_eq_load_iff {reference path name : String} (refers : Refers reference path name)
    {entries : List Variable} (valid : ∀ entry ∈ entries, entry.isValid) (first second : Registry)
    (state : σ) :
    load first reference entries state = load second reference entries state ↔
      first.resolve path name = second.resolve path name := by
  constructor
  · intro same
    obtain ⟨guard, decides⟩ := load_eq_resolve refers valid state
    have outcomes := congrArg Prod.snd same
    rw [decides, decides] at outcomes
    cases left : first.resolve path name <;> cases right : second.resolve path name <;>
      rw [left, right] at outcomes <;> cases outcomes <;> rfl
  · intro same
    obtain ⟨guard, applied, -⟩ := Guard.apply_spec valid state
    have split := splitReference_eq_ok_iff.2 refers
    rw [load_of_guard first split applied, load_of_guard second split applied, same]

theorem load_eq_invalid_iff (registry : Registry) (reference : String) (entries : List Variable)
    (state : σ) :
    (load registry reference entries state).2 = .error (.invalidReference reference) ↔
      '.' ∉ reference.toList := by
  refine ⟨fun failed dotted => ?_, fun absent => by rw [load_of_noDot registry absent]⟩
  rcases Variable.valid_or_stops entries with valid | ⟨earlier, entry, stops⟩
  · obtain ⟨⟨path, name⟩, refers, -⟩ := existsUnique_refers dotted
    obtain ⟨guard, decides⟩ := load_eq_resolve refers valid state
    rw [decides] at failed
    cases resolved : registry.resolve path name <;> rw [resolved] at failed <;> cases failed
  · rw [(load_of_stops registry dotted stops state).1] at failed
    cases failed

theorem loadedAfter_load (calls : List Registration) (reference : String) (entries : List Variable)
    (state : σ) :
    LoadedAfter calls reference entries
      (load (Registry.empty.fill calls) reference entries state).2 where
  invalid := load_eq_invalid_iff _ reference entries state
  pair := existsUnique_refers
  rejected := fun dotted earlier entry stops => (load_of_stops _ dotted stops state).1
  found := by
    intro valid path name refers call latest
    obtain ⟨guard, decides⟩ := load_eq_resolve refers valid state
    refine ⟨guard, ?_⟩
    rw [decides, Registry.resolve_fill, answer, latest]
  noFunction := by
    intro valid path name refers used absent
    obtain ⟨guard, decides⟩ := load_eq_resolve refers valid state
    rw [decides, Registry.resolve_fill, answer, absent]
    dsimp only
    rw [if_pos used]
  noModule := by
    intro valid path name refers unused
    obtain ⟨guard, decides⟩ := load_eq_resolve refers valid state
    have absent : last? calls path name = none :=
      last?_eq_none_iff.2 fun call member isFor => unused call member (isFor_iff.1 isFor).1
    rw [decides, Registry.resolve_fill, answer, absent]
    dsimp only
    rw [if_neg fun ⟨call, member, named⟩ => unused call member named]

/-- What comes of a reference is said by the calls, whatever the variables were. Later calls for
other pairs make a difference only if they are the first in the module. -/
theorem load_after (calls : List Registration) (reference : String) (entries : List Variable)
    (state : σ) :
    LoadedAfter calls reference entries
      (load (Registry.empty.fill calls) reference entries state).2 ∧
    ((∀ entry ∈ entries, entry.isValid) → ∀ path name, Refers reference path name →
      ∀ more : List Registration, (∀ call ∈ more, ¬ call.isFor path name) →
        (load (Registry.empty.fill (calls ++ more)) reference entries state =
            load (Registry.empty.fill calls) reference entries state ↔
          ((∃ call ∈ more, call.path = path) → ∃ call ∈ calls, call.path = path))) := by
  refine ⟨loadedAfter_load calls reference entries state, ?_⟩
  intro valid path name refers more others
  rw [load_eq_load_iff refers valid, Registry.resolve_fill, Registry.resolve_fill]
  exact answer_append_iff others

/-- Two calls for one pair with another in between, in modules whose paths begin alike. -/
def repeated : List Registration :=
  [⟨"a.b", "f", fun _ => .error "first"⟩, ⟨"a", "b.f", fun _ => .error "second"⟩,
    ⟨"a.b", "f", fun _ => .error "third"⟩]

/-- The latest call for the pair counts, and what is not there is missing in one of two ways. A call
in an unused module is no difference to the others. -/
theorem load_after_repeated :
    (∃ guard, (load (Registry.empty.fill repeated) "a.b.f" [] Environment.empty).2 =
      .ok ⟨"a.b.f", fun _ => .error "third", guard⟩) ∧
    (load (Registry.empty.fill repeated) "a.b." [] Environment.empty).2 =
      .error (.load (.functionNotFound "a.b" "")) ∧
    (load (Registry.empty.fill repeated) "a..f" [] Environment.empty).2 =
      .error (.load (.moduleNotFound "a.")) ∧
    load (Registry.empty.fill (repeated ++ [⟨"a.", "g", fun _ => .ok []⟩])) "a.b.f" []
        Environment.empty =
      load (Registry.empty.fill repeated) "a.b.f" [] Environment.empty := by
  have valid : ∀ entry ∈ ([] : List Variable), entry.isValid := nofun
  have found : Refers "a.b.f" "a.b" "f" := ⟨rfl, by decide +kernel⟩
  have nameless : Refers "a.b." "a.b" "" := ⟨rfl, by decide +kernel⟩
  have elsewhere : Refers "a..f" "a." "f" := ⟨rfl, by decide +kernel⟩
  have after := fun reference => load_after repeated reference [] Environment.empty
  refine ⟨(after "a.b.f").1.found valid _ _ found _ rfl,
    (after "a.b.").1.noFunction valid _ _ nameless (by decide +kernel) rfl,
    (after "a..f").1.noModule valid _ _ elsewhere (by decide +kernel), ?_⟩
  exact ((after "a.b.f").2 valid _ _ found _ (by decide +kernel)).2 (by decide +kernel)

/-- A call for another function of a module that was not there before. -/
def newcomer : Registration := ⟨"taxi", "other", fun _ => .ok []⟩

/-- First the module is missing and then the function, although the call is for another pair. -/
theorem load_changed :
    Refers "taxi.nodes" "taxi" "nodes" ∧ ¬ newcomer.isFor "taxi" "nodes" ∧
    (load (Registry.empty.fill []) "taxi.nodes" [] Environment.empty).2 =
      .error (.load (.moduleNotFound "taxi")) ∧
    (load (Registry.empty.fill ([] ++ [newcomer])) "taxi.nodes" [] Environment.empty).2 =
      .error (.load (.functionNotFound "taxi" "nodes")) := by
  have valid : ∀ entry ∈ ([] : List Variable), entry.isValid := nofun
  have refers : Refers "taxi.nodes" "taxi" "nodes" := ⟨rfl, by decide +kernel⟩
  have after := fun calls => loadedAfter_load calls "taxi.nodes" [] Environment.empty
  refine ⟨refers, by decide +kernel, (after []).noModule valid _ _ refers nofun, ?_⟩
  exact (after [newcomer]).noFunction valid _ _ refers ⟨newcomer, List.mem_singleton.2 rfl, rfl⟩ rfl

end Pipeline

end PipelineManifest
