import Placard.Config.Layers
import Placard.Proofs.Text.Case

/-! Names of settings. A variable names a group of settings and a field in it; a name without a dot
and without a bracket leads to no other place than its own. -/
namespace Placard.Config

/-- Small letters, digits and underscores, no two of which stand side by side and none at the end. -/
structure Word (s : String) : Prop where
  filled : s.toList ≠ []
  plain : ∀ c ∈ s.toList, c.isLower ∨ c.isDigit ∨ c = '_'
  single : ¬ ['_','_'] <:+: s.toList
  ended : s.toList.getLast? ≠ some '_'

instance (s : String) : Decidable (Word s) :=
  decidable_of_iff (s.toList ≠ [] ∧ (s.toList.all fun c => c.isLower ∨ c.isDigit ∨ c = '_') ∧
      ¬ ['_','_'] <:+: s.toList ∧ s.toList.getLast? ≠ some '_')
    ⟨fun h => ⟨h.1,Text.forall_of_all h.2.1,h.2.2.1,h.2.2.2⟩,
      fun h => ⟨h.filled,Text.all_of_forall h.plain,h.single,h.ended⟩⟩

def variableName (group field : String) : String := variablePrefix ++ group ++ "__" ++ field

def settingName (group field : String) : String := group ++ "." ++ field

theorem dotted_single {s : List Char} (single : ¬ ['_','_'] <:+: s) : dotted s = s := by
  fun_induction dotted s with
  | case1 rest => exact absurd (List.infix_append [] ['_','_'] rest) single
  | case2 c rest other ih => rw [ih fun within => single (within.trans (List.suffix_cons c rest).isInfix)]
  | case3 => rfl

theorem dotted_append {s : List Char} (single : ¬ ['_','_'] <:+: s) (ended : s.getLast? ≠ some '_')
    (rest : List Char) : dotted (s ++ '_' :: '_' :: rest) = s ++ '.' :: dotted rest := by
  induction s with
  | nil => rfl
  | cons c s ih =>
    have pair : ¬ ∃ s', c :: s = '_' :: '_' :: s' := by
      rintro ⟨s',same⟩
      exact single (same ▸ List.infix_append [] ['_','_'] s')
    cases s with
    | nil =>
      have other : c ≠ '_' := by
        rintro rfl
        exact ended rfl
      simp [dotted,other]
    | cons d s =>
      have later := ih (fun within => single (within.trans (List.suffix_cons c _).isInfix))
        (by simpa using ended)
      have first : dotted (c :: (d :: s ++ '_' :: '_' :: rest)) =
          c :: dotted (d :: s ++ '_' :: '_' :: rest) := by
        rw [dotted]
        rintro r rfl same
        exact pair ⟨s,by simp_all⟩
      rw [List.cons_append,first,later]
      rfl

theorem settingName?_of_words {name group field : String} (first : Word group) (second : Word field)
    (named : Text.lowercased name = variableName group field) :
    settingName? name = some (settingName group field) := by
  have start : (Text.lowercased name).toList =
      variablePrefix.toList ++ (group.toList ++ '_' :: '_' :: field.toList) := by
    simp [named,variableName]
  have text : String.ofList (group.toList ++ '.' :: field.toList) = settingName group field := by
    rw [String.ext_iff]
    simp [settingName]
  rw [settingName?,start,Text.after?_append,Option.map_some,dotted_append first.single first.ended,
    dotted_single second.single,text]

theorem Word.lowercased {s : String} (word : Word s) : Text.lowercased s = s := by
  refine Text.lowercased_uncapital fun c member => ?_
  rcases word.plain c member with small | digit | rfl
  · simp only [Char.isLower,UInt32.le_iff_toNat_le,ge_iff_le,Bool.and_eq_true,
      decide_eq_true_eq] at small
    exact ⟨Nat.lt_of_le_of_lt small.2 (by decide),
      fun capital => absurd (Nat.le_trans small.1 capital.2) (by decide)⟩
  · exact Text.uncapital_of_isDigit digit
  · decide

theorem Word.isNameChar {s : String} (word : Word s) : ∀ c ∈ s.toList, Key.isNameChar c := by
  intro c member
  rcases word.plain c member with small | digit | rfl
  · simp [Key.isNameChar,Char.isAlphanum,Char.isAlpha,small]
  · simp [Key.isNameChar,Char.isAlphanum,digit]
  · rfl

theorem Key.ofText_whole {s : String} (dot : '.' ∉ s.toList) (bracket : '[' ∉ s.toList) :
    Key.ofText s = ⟨s,[]⟩ := by
  have whole := List.takeWhile_append_dropWhile (p := isNameChar) (l := s.toList)
  unfold Key.ofText
  cases rest : s.toList.dropWhile isNameChar with
  | nil =>
    rw [rest,List.append_nil] at whole
    rw [whole]
    cases front : s.toList with
    | nil => rfl
    | cons c name =>
      have same : String.ofList (c :: name) = s := by rw [← front,String.ofList_toList]
      simp [steps?,same]
  | cons c after =>
    have member : c ∈ s.toList := by
      rw [← whole,rest]
      simp
    have none : steps? (c :: after) = none := by
      rw [steps?,if_neg,if_neg]
      · rintro rfl
        exact bracket member
      · rintro rfl
        exact dot member
    cases s.toList.takeWhile isNameChar <;> simp [none]

theorem Key.ofText_settingName {group field : String} (first : Word group) (second : Word field) :
    Key.ofText (settingName group field) = ⟨group,[.name field]⟩ := by
  have text : (settingName group field).toList = group.toList ++ '.' :: field.toList := by
    simp [settingName]
  have front : (group.toList ++ '.' :: field.toList).takeWhile isNameChar = group.toList ∧
      (group.toList ++ '.' :: field.toList).dropWhile isNameChar = '.' :: field.toList := by
    rw [List.takeWhile_append_of_pos first.isNameChar,List.dropWhile_append_of_pos first.isNameChar]
    simp [isNameChar]
  have back : field.toList.takeWhile isNameChar = field.toList ∧
      field.toList.dropWhile isNameChar = [] := by
    have taken := @List.takeWhile_append_of_pos _ Key.isNameChar field.toList [] second.isNameChar
    have dropped := @List.dropWhile_append_of_pos _ Key.isNameChar field.toList [] second.isNameChar
    simpa using And.intro taken dropped
  have steps : steps? ('.' :: field.toList) = some [.name field] := by
    rw [steps?,if_pos rfl,back.1,back.2]
    cases filled : field.toList with
    | nil => exact absurd filled second.filled
    | cons c name => simp [steps?,← filled]
  unfold Key.ofText
  rw [text,front.1,front.2,steps]
  cases filled : group.toList with
  | nil => exact absurd filled first.filled
  | cons c name => simp [← filled]

end Placard.Config
