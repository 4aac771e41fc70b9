import Placard.Config.Variables
import Placard.Proofs.Table

/-! What a file of variables adds to those that are set. A variable that is not set is taken for an
empty one where it is referred to. So a file that does not set a variable adds the same whether that
variable is empty or not there. -/
namespace Placard.VariableFile

variable {environment environment' : Variables} {name : String}

/-- What a line gives a value to, if anything; `none` if the line is malformed. -/
def given? (environment : Variables) (line : List Char) : Option (Option (String × String)) :=
  let line := Text.trimStart (Text.trimEnd line)
  if line = [] ∨ line.head? = some '#' then some none
  else do
    let (name,rest) ← nameAndValue? line
    let rest := Text.trimStart rest
    if rest = [] ∨ rest.head? = some '#' then return some (String.ofList name,"")
    else return some (String.ofList name,← value? environment rest)

def new (environment : Variables) (given : Option (String × String)) : Variables :=
  given.toList.filter fun v => (environment.lookup v.1).isNone

theorem assign_eq (environment : Variables) (line : List Char) :
    assign environment line = (given? environment line).map fun given =>
      environment ++ new environment given := by
  have keep (name value : String) :
      (if (environment.lookup name).isSome then environment else environment ++ [(name,value)]) =
        environment ++ new environment (some (name,value)) := by
    cases found : environment.lookup name <;> simp [new,found]
  unfold assign given?
  simp only
  split
  · simp [new]
  · cases nameAndValue? (Text.trimStart (Text.trimEnd line)) with
    | none => rfl
    | some parts =>
      simp only [Option.bind_eq_bind,Option.bind_some]
      split
      · exact congrArg some (keep _ _)
      · cases value? environment (Text.trimStart parts.2) with
        | none => rfl
        | some value => exact congrArg some (keep _ _)

theorem value?_congr (same : referred environment' = referred environment) (s : List Char) :
    value? environment' s = value? environment s := by
  have next : Reading.next environment' = Reading.next environment := by
    funext r c
    simp only [Reading.next,Reading.refer,same]
  have finished : Reading.finished environment' = Reading.finished environment := by
    funext r
    simp only [Reading.finished,same]
  rw [value?,value?,next,finished]

theorem given?_congr (same : referred environment' = referred environment) (line : List Char) :
    given? environment' line = given? environment line := by
  simp only [given?,value?_congr same]

theorem assignAll_cons (environment : Variables) (line : List Char)
    (rest : List (Option (List Char))) :
    assignAll environment (some line :: rest) =
      match given? environment line with
      | some given => assignAll (environment ++ new environment given) rest
      | none => environment := by
  rw [assignAll,assign_eq]
  cases given? environment line <;> rfl

theorem assignAll_adds (environment : Variables) (lines : List (Option (List Char))) :
    ∃ added, assignAll environment lines = environment ++ added := by
  induction lines generalizing environment with
  | nil => exact ⟨[],by simp [assignAll]⟩
  | cons line rest ih =>
    cases line with
    | none => exact ⟨[],by simp [assignAll]⟩
    | some line =>
      rw [assignAll_cons]
      cases given? environment line with
      | none => exact ⟨[],(List.append_nil _).symm⟩
      | some given =>
        obtain ⟨added,later⟩ := ih (environment ++ new environment given)
        exact ⟨_,later.trans (List.append_assoc _ _ _)⟩

structure Emptied (name : String) (environment environment' : Variables) : Prop where
  absent : environment.lookup name = none
  empty : environment'.lookup name = some ""
  others : ∀ other, other ≠ name → environment'.lookup other = environment.lookup other

theorem Emptied.referred (emptied : Emptied name environment environment') :
    referred environment' = referred environment := by
  funext other
  rw [VariableFile.referred,VariableFile.referred]
  by_cases same : String.ofList other = name
  · rw [same,emptied.absent,emptied.empty]
    rfl
  · rw [emptied.others _ same]

theorem Emptied.append (emptied : Emptied name environment environment') {added : Variables}
    (absent : (environment ++ added).lookup name = none) :
    Emptied name (environment ++ added) (environment' ++ added) where
  absent := absent
  empty := by
    rw [List.lookup_append,emptied.empty]
    rfl
  others other apart := by rw [List.lookup_append,List.lookup_append,emptied.others other apart]

theorem Emptied.new (emptied : Emptied name environment environment')
    {given : Option (String × String)}
    (absent : (environment ++ new environment given).lookup name = none) :
    new environment' given = new environment given := by
  cases given with
  | none => rfl
  | some v =>
    by_cases same : v.1 = name
    · subst same
      simp [VariableFile.new,List.lookup_append,emptied.absent] at absent
    · have alike := emptied.others v.1 same
      simp only [VariableFile.new,Option.toList_some,List.filter_cons,List.filter_nil,alike]

theorem Emptied.assignAll (emptied : Emptied name environment environment')
    {lines : List (Option (List Char))} (absent : (assignAll environment lines).lookup name = none) :
    ∃ added, assignAll environment lines = environment ++ added ∧
      assignAll environment' lines = environment' ++ added := by
  induction lines generalizing environment environment' with
  | nil => exact ⟨[],by simp [VariableFile.assignAll]⟩
  | cons line rest ih =>
    cases line with
    | none => exact ⟨[],by simp [VariableFile.assignAll]⟩
    | some line =>
      rw [assignAll_cons] at absent
      rw [assignAll_cons,assignAll_cons,given?_congr emptied.referred]
      cases reads : given? environment line with
      | none => exact ⟨[],(List.append_nil _).symm,(List.append_nil _).symm⟩
      | some given =>
        simp only [reads] at absent ⊢
        have missing : (environment ++ VariableFile.new environment given).lookup name = none := by
          obtain ⟨added,later⟩ := assignAll_adds (environment ++ VariableFile.new environment given) rest
          rw [later,List.lookup_append,Option.or_eq_none_iff] at absent
          exact absent.1
        rw [emptied.new missing]
        obtain ⟨added,later,later'⟩ := ih (emptied.append missing) absent
        exact ⟨_,later.trans (List.append_assoc _ _ _),later'.trans (List.append_assoc _ _ _)⟩

/-- A file that does not set a variable adds the same whether that is empty or not there. -/
theorem Emptied.load (emptied : Emptied name environment environment') {contents : ByteArray}
    (absent : (load environment contents).lookup name = none) :
    ∃ added, load environment contents = environment ++ added ∧
      load environment' contents = environment' ++ added :=
  emptied.assignAll absent

end Placard.VariableFile
