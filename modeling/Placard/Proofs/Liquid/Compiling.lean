import Placard.Proofs.Liquid.Reading

/-! How a text is compiled from its front: literal text up to where an element opens, or one element,
and then what stands after it. -/
namespace Placard.Liquid

theorem infix_of_afterOpening? {mark s : List Char} (opens : (afterOpening? mark s).isSome) :
    mark <:+: s := by
  rw [afterOpening?,Option.isSome_or,Bool.or_eq_true,Text.isSome_after?_iff,
    Text.isSome_after?_iff] at opens
  rcases opens with dashed | plain
  · have later := (List.prefix_append mark ['-']).trans dashed
    exact later.isInfix.trans (List.dropWhile_suffix isBlank).isInfix
  · exact plain.isInfix

theorem closed_of_unmarked {s : List Char} (unprinted : ¬ ['{','{'] <:+: s)
    (untagged : ¬ ['{','%'] <:+: s) : opensElement s = false := by
  rw [opensElement,Bool.or_eq_false_iff]
  constructor
  · exact Bool.eq_false_iff.mpr fun opens => unprinted (infix_of_afterOpening? opens)
  · exact Bool.eq_false_iff.mpr fun opens => untagged (infix_of_afterOpening? opens)

/-- No blanks before the text go with an element that it opens. -/
def keepsBlanks (s : List Char) : Bool :=
  (Text.after? ['{','{','-'] (skipBlanks s)).isNone && (Text.after? ['{','%','-'] (skipBlanks s)).isNone

structure Stops (s : List Char) : Prop where
  ends : s = [] ∨ opensElement s
  keeps : keepsBlanks s

theorem stops_nil : Stops [] := ⟨.inl rfl,rfl⟩

theorem stops_output (s : List Char) : Stops ('{' :: '{' :: ' ' :: s) where
  ends := .inr (by simp [opensElement,afterOpening?,Text.after?_cons])
  keeps := by simp [keepsBlanks,skipBlanks_brace,Text.after?_cons]

theorem stops_tag (s : List Char) : Stops ('{' :: '%' :: ' ' :: s) where
  ends := .inr (by simp [opensElement,afterOpening?,Text.after?_cons])
  keeps := by simp [keepsBlanks,skipBlanks_brace,Text.after?_cons]

/-- Text without the first character of a mark opens nothing. -/
theorem closed_append {l rest : List Char} (filled : l ≠ []) (plain : '{' ∉ l)
    (keeps : keepsBlanks rest) : opensElement (l ++ rest) = false := by
  have apart {c : Char} (member : c ∈ l) : '{' ≠ c := fun same => plain (same ▸ member)
  simp only [keepsBlanks,Bool.and_eq_true,Option.isNone_iff_eq_none] at keeps
  obtain ⟨print,tag⟩ := keeps
  have here (mark : List Char) : Text.after? ('{' :: mark) (l ++ rest) = none := by
    cases l with
    | nil => exact absurd rfl filled
    | cons c l => rw [List.cons_append,Text.after?_cons,if_neg (apart List.mem_cons_self)]
  have later {mark : List Char} (none : Text.after? ('{' :: mark) (skipBlanks rest) = none) :
      Text.after? ('{' :: mark) (skipBlanks (l ++ rest)) = .none := by
    rw [skipBlanks,List.dropWhile_append]
    cases left : l.dropWhile isBlank with
    | nil => exact none
    | cons c tail =>
      have member : c ∈ l := (List.dropWhile_sublist isBlank).subset (left ▸ List.mem_cons_self)
      rw [if_neg (by simp),List.cons_append,Text.after?_cons,if_neg (apart member)]
  simp [opensElement,afterOpening?,here,later print,later tag]

/-- Literal text is taken up to where an element opens. -/
theorem splitText_append {l rest : List Char}
    (closed : ∀ a, a ≠ [] → a <:+ l → opensElement (a ++ rest) = false)
    (stops : rest = [] ∨ opensElement rest) : splitText (l ++ rest) = (l,rest) := by
  induction l with
  | nil =>
    rcases stops with rfl | opens
    · rfl
    · cases rest with
      | nil => rfl
      | cons c rest => simp [splitText,opens]
  | cons c l ih =>
    have shut := closed (c :: l) (List.cons_ne_nil c l) List.suffix_rfl
    have split := ih fun a filled within => closed a filled (within.trans (List.suffix_cons c l))
    rw [List.cons_append] at shut ⊢
    simp [splitText,shut,split]

theorem element?_closed {s : List Char} (closed : opensElement s = false) : element? s = none := by
  rw [opensElement,Bool.or_eq_false_iff,Option.isSome_eq_false_iff,Option.isSome_eq_false_iff,
    Option.isNone_iff_eq_none,Option.isNone_iff_eq_none] at closed
  simp [element?,output?,tag?,closed.1,closed.2]

theorem output?_tag (s : List Char) : output? ('{' :: '%' :: ' ' :: s) = none := by
  simp [output?,afterOpening?,skipBlanks_brace,Text.after?_cons]

theorem tag?_output (s : List Char) : tag? ('{' :: '{' :: ' ' :: s) = none := by
  simp [tag?,afterOpening?,skipBlanks_brace,Text.after?_cons]

/-- The text comes to the nodes, or does not compile, whatever fuel there is beyond what it takes. -/
def Compiles (x : Extensions) (s : List Char) (nodes : Option (List Node)) : Prop :=
  ∀ fuel depth count, s.length ≤ fuel → 0 < depth → (elementsFrom fuel s).length ≤ count →
    wholeBody x depth count (elementsFrom fuel s) = nodes

variable {x : Extensions} {nodes : Option (List Node)}

theorem compile?_of_compiles {s : List Char} (compiles : Compiles x s nodes) :
    compile? x (String.ofList s) = nodes.map fun ns => ⟨x,ns⟩ := by
  rw [compile?,String.toList_ofList]
  exact congrArg _ (compiles _ _ _ (Nat.le_refl _) (Nat.succ_pos _) (Nat.le_refl _))

theorem elementsFrom_nil (fuel : Nat) : elementsFrom fuel [] = [] := by
  cases fuel <;> rfl

theorem compiles_nil : Compiles x [] (some []) := by
  intro fuel depth count _ _ _
  rw [elementsFrom_nil,wholeBody]

/-- An element that becomes one node is followed by the nodes of what stands after it. -/
theorem compiles_cons {s rest : List Char} {e : Sourced} {n : Node}
    (read : ∀ fuel, elementsFrom (fuel + 1) s = e :: elementsFrom fuel rest)
    (shorter : rest.length < s.length)
    (made : ∀ depth count row, wholeBody x (depth + 1) (count + 1) (e :: row) =
      (wholeBody x (depth + 1) count row).map (n :: ·))
    (later : Compiles x rest nodes) : Compiles x s (nodes.map (n :: ·)) := by
  intro fuel depth count enough deep counted
  obtain ⟨depth,rfl⟩ : ∃ k, depth = k + 1 := ⟨depth - 1,by omega⟩
  obtain ⟨fuel,rfl⟩ : ∃ k, fuel = k + 1 := ⟨fuel - 1,by omega⟩
  rw [read,List.length_cons] at counted
  obtain ⟨count,rfl⟩ : ∃ k, count = k + 1 := ⟨count - 1,by omega⟩
  rw [read,made,later fuel (depth + 1) count (by omega) deep (Nat.le_of_succ_le_succ counted)]

theorem wholeBody_plain {e : Element} {source : List Char} {n : Node}
    (made : plainNode? x e source = some n) (depth count : Nat) (row : List Sourced) :
    wholeBody x depth (count + 1) (⟨e,source⟩ :: row) =
      (wholeBody x depth count row).map (n :: ·) := by
  cases e with
  | tag => cases made
  | _ =>
    rw [Option.map_eq_bind]
    simp [wholeBody,made]

def textNodes (s : List Char) : List Node := if s = [] then [] else [.text (String.ofList s)]

theorem compiles_text {l rest : List Char}
    (closed : ∀ a, a ≠ [] → a <:+ l → opensElement (a ++ rest) = false)
    (stops : rest = [] ∨ opensElement rest) (later : Compiles x rest nodes) :
    Compiles x (l ++ rest) (nodes.map (textNodes l ++ ·)) := by
  cases l with
  | nil => simpa [textNodes] using later
  | cons c l =>
    have split := splitText_append closed stops
    have unread := element?_closed (closed (c :: l) (List.cons_ne_nil c l) List.suffix_rfl)
    rw [List.cons_append] at split unread ⊢
    have read (fuel : Nat) : elementsFrom (fuel + 1) (c :: (l ++ rest)) =
        ⟨.text,c :: l⟩ :: elementsFrom fuel rest := by
      simp [elementsFrom,unread,split]
    exact compiles_cons read (by simp) (fun depth => wholeBody_plain rfl (depth + 1)) later

theorem compiles_literal {l rest : List Char} (plain : '{' ∉ l) (stops : Stops rest)
    (later : Compiles x rest nodes) : Compiles x (l ++ rest) (nodes.map (textNodes l ++ ·)) := by
  refine compiles_text (fun a filled within => ?_) stops.ends later
  exact closed_append filled (fun brace => plain (within.subset brace)) stops.keeps

theorem elementsFrom_read {c : Char} {s rest : List Char} {e : Element}
    (read : element? (c :: s) = some (e,rest)) (fuel : Nat) :
    elementsFrom (fuel + 1) (c :: s) =
      ⟨e,(c :: s).take (s.length + 1 - rest.length)⟩ :: elementsFrom fuel rest := by
  simp [elementsFrom,read]

theorem compiles_output {c : Char} {s rest : List Char} {chain : Chain}
    (read : output? (c :: s) = some (.output chain,rest)) (known : chain.known? x = some chain)
    (shorter : rest.length ≤ s.length) (later : Compiles x rest nodes) :
    Compiles x (c :: s) (nodes.map (.output chain :: ·)) := by
  have element : element? (c :: s) = some (.output chain,rest) := by rw [element?,read,Option.some_or]
  have made (source : List Char) : plainNode? x (.output chain) source = some (.output chain) := by
    rw [plainNode?,known,Option.map_some]
  exact compiles_cons (elementsFrom_read element) (Nat.lt_succ_of_le shorter)
    (fun depth => wholeBody_plain (made _) (depth + 1)) later

/-- A tag that is registered takes its arguments and no block. -/
theorem compiles_custom {s rest : List Char} {name : String} {ts : List Token}
    {given : List (String × Expression)}
    (read : tag? ('{' :: '%' :: ' ' :: s) = some (.tag name ts,rest))
    (registered : (x.tags.lookup name).isSome) (arguments : assignments? ts = some given)
    (shorter : rest.length ≤ s.length) (later : Compiles x rest nodes) :
    Compiles x ('{' :: '%' :: ' ' :: s) (nodes.map (.custom name given :: ·)) := by
  have element : element? ('{' :: '%' :: ' ' :: s) = some (.tag name ts,rest) := by
    rw [element?,output?_tag,Option.none_or,read]
  refine compiles_cons (elementsFrom_read element) (by simp; omega) (fun depth count row => ?_) later
  have node : tagNode x (depth + 1) name ts row = .ok (some (.custom name given),row) := by
    rw [tagNode,if_pos registered,arguments]
    rfl
  rw [wholeBody,node]
  rfl

/-- An output that cannot be read does not compile, whatever stands after it. -/
theorem compiles_unread {s : List Char} (unread : output? ('{' :: '{' :: ' ' :: s) = none) :
    Compiles x ('{' :: '{' :: ' ' :: s) none := by
  intro fuel depth count enough deep counted
  rw [List.length_cons] at enough
  obtain ⟨fuel,rfl⟩ : ∃ k, fuel = k + 1 := ⟨fuel - 1,by omega⟩
  have opens : opensElement ('{' :: '{' :: ' ' :: s) := (stops_output s).ends.resolve_left (by simp)
  have none : element? ('{' :: '{' :: ' ' :: s) = .none := by
    rw [element?,unread,tag?_output,Option.none_or]
  have invalid : elementsFrom (fuel + 1) ('{' :: '{' :: ' ' :: s) =
      ⟨.invalid,['{']⟩ :: elementsFrom fuel ('{' :: ' ' :: s) := by
    simp [elementsFrom,none,splitText,opens]
  rw [invalid]
  cases count with
  | zero => rw [wholeBody]
  | succ count => simp [wholeBody,plainNode?]

/-- Text that opens no element is all that its template has. -/
theorem compile?_text {s : List Char} (unprinted : ¬ ['{','{'] <:+: s)
    (untagged : ¬ ['{','%'] <:+: s) : compile? x (String.ofList s) = some ⟨x,textNodes s⟩ := by
  have closed : ∀ a, a ≠ [] → a <:+ s → opensElement (a ++ []) = false := by
    intro a _ within
    rw [List.append_nil]
    apply closed_of_unmarked
    · exact fun found => unprinted (found.trans within.isInfix)
    · exact fun found => untagged (found.trans within.isInfix)
  have compiles := compiles_text (x := x) closed (.inl rfl) compiles_nil
  rw [List.append_nil] at compiles
  rw [compile?_of_compiles compiles,Option.map_some,Option.map_some,List.append_nil]

theorem compile?_output {c : Char} {s : List Char} {chain : Chain}
    (read : output? (c :: s) = some (.output chain,[])) (known : chain.known? x = some chain) :
    compile? x (String.ofList (c :: s)) = some ⟨x,[.output chain]⟩ :=
  compile?_of_compiles (compiles_output read known (Nat.zero_le _) compiles_nil)

end Placard.Liquid
