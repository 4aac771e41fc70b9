import Mathlib.Data.List.Forall2
import Placard.Target

/-! Keys are read from both ends: the kind and the language from the front, the client from the
back. What is left between them is the source, whatever it holds. Where no part of a key holds a
colon, the key can be cut at its colons, and all that is lost of its parts is whether an empty field
was there. -/
namespace Placard

/-- The text can be told from what stands beside it in a key. -/
def Colonless (s : String) : Prop := ':' ∉ s.toList

instance : DecidablePred Colonless := fun s => inferInstanceAs (Decidable (':' ∉ s.toList))

theorem joinKey_cons (head : String) (f : Option String) (rest : List (Option String)) :
    joinKey head (f :: rest) = joinKey (head ++ ":" ++ f.getD "") rest := rfl

theorem toList_joinKey (head : String) (fields : List (Option String)) :
    (joinKey head fields).toList =
      head.toList ++ fields.flatMap fun f => ':' :: (f.getD "").toList := by
  induction fields generalizing head with
  | nil => simp [joinKey]
  | cons f rest ih =>
    rw [joinKey_cons,ih]
    simp

/-- Cut at its colons, a key gives its head and its fields. -/
theorem splitOn_joinKey {head : String} {fields : List (Option String)} (clear : Colonless head)
    (each : ∀ f ∈ fields, ∀ s ∈ f, Colonless s) :
    (joinKey head fields).toList.splitOn ':' =
      head.toList :: fields.map fun f => (f.getD "").toList := by
  rw [toList_joinKey]
  -- A field that has been cut off the front is the head of those after it.
  unfold Colonless at clear
  generalize head.toList = front at clear
  induction fields generalizing front with
  | nil => simpa using List.splitOn_eq_singleton clear
  | cons f rest ih =>
    obtain ⟨here,later⟩ := List.forall_mem_cons.mp each
    have next : ':' ∉ (f.getD "").toList := by
      cases f with
      | none => simp
      | some s => exact here s rfl
    rw [List.flatMap_cons,List.cons_append,List.splitOn_append_cons_self_of_not_mem clear,
      ih later _ next,List.map_cons]

theorem joinKey_congr {head : String} {fields fields' : List (Option String)}
    (same : fields.Forall₂ (fun f g => f.getD "" = g.getD "") fields') :
    joinKey head fields = joinKey head fields' := by
  induction same generalizing head with
  | nil => rfl
  | @cons f g rest rest' first _ ih =>
    rw [joinKey_cons,joinKey_cons,first,ih]

/-- Keys without colons in their parts are the same just if their heads are, they have as many fields,
and one field after the other is the same, where an absent field counts as the empty one. So keys
with different numbers of fields are always different. -/
theorem joinKey_eq_joinKey_iff {head head' : String} {fields fields' : List (Option String)}
    (clear : Colonless head) (clear' : Colonless head')
    (each : ∀ f ∈ fields, ∀ s ∈ f, Colonless s) (each' : ∀ f ∈ fields', ∀ s ∈ f, Colonless s) :
    joinKey head fields = joinKey head' fields' ↔
      head = head' ∧ fields.length = fields'.length ∧
        fields.Forall₂ (fun f g => f.getD "" = g.getD "") fields' := by
  constructor
  · intro same
    have segments := congrArg (fun key => key.toList.splitOn ':') same
    rw [splitOn_joinKey clear each,splitOn_joinKey clear' each',List.cons.injEq] at segments
    obtain ⟨heads,rest⟩ := segments
    have fields : fields.Forall₂ (fun f g => f.getD "" = g.getD "") fields' := by
      rw [← List.forall₂_eq_eq_eq,List.forall₂_map_left_iff,List.forall₂_map_right_iff] at rest
      exact rest.imp fun _ _ => String.ext
    exact ⟨String.ext heads,fields.length_eq,fields⟩
  · rintro ⟨rfl,-,same⟩
    exact joinKey_congr same

/-- An absent field cannot be told from an empty one, but it counts as a field. -/
theorem joinKey_absent_eq_empty :
    Colonless "event" ∧ (∀ f ∈ [some "liquid",none], ∀ s ∈ f, Colonless s) ∧
      joinKey "event" [some "liquid",none] = joinKey "event" [some "liquid",some ""] ∧
      joinKey "event" [some "liquid",none] ≠ joinKey "event" [some "liquid"] := by
  have head : Colonless "event" := by decide
  have absent : ∀ f ∈ [some "liquid",none], ∀ s ∈ f, Colonless s := by decide
  have empty : ∀ f ∈ [some "liquid",some ""], ∀ s ∈ f, Colonless s := by decide
  have single : ∀ f ∈ [some "liquid"], ∀ s ∈ f, Colonless s := by decide
  refine ⟨head,absent,?_,fun same => ?_⟩
  · exact (joinKey_eq_joinKey_iff head head absent empty).mpr ⟨rfl,rfl,by simp⟩
  · obtain ⟨-,lengths,-⟩ := (joinKey_eq_joinKey_iff head head absent single).mp same
    cases lengths

end Placard

namespace Placard.Target

/-- The last segment names its client even if the source holds colons. -/
theorem client_segment (s s' : List Char) (c c' : Client)
    (same : s ++ ':' :: c.name.toList = s' ++ ':' :: c'.name.toList) : s = s' ∧ c = c' := by
  have last := congrArg List.getLast? same
  cases c <;> cases c' <;> simp [Client.name] at same last ⊢
  all_goals exact same

theorem key_injective : Function.Injective key := by
  rintro ⟨l,s,c⟩ ⟨l',s',c'⟩ same
  have text := congrArg String.toList same
  rcases c with _ | c <;> rcases c' with _ | c'
  · cases l <;> cases l' <;> simp [key,eventKey,joinKey,Language.name] at text ⊢
    all_goals exact String.ext text
  · simp [key,cardKey,eventKey,joinKey] at text
  · simp [key,cardKey,eventKey,joinKey] at text
  · cases l <;> cases l' <;> simp [key,cardKey,joinKey,Language.name] at text ⊢
    all_goals
      have ⟨source,client⟩ := client_segment _ _ _ _ text
      exact ⟨String.ext source,client⟩

/-- Different targets never share a key, whatever their sources are. -/
theorem key_eq_key_iff {l l' : Language} {s s' : String} {c c' : Option Client} :
    (mk l s c).key = (mk l' s' c').key ↔ l = l' ∧ s = s' ∧ c = c' := by
  rw [key_injective.eq_iff,mk.injEq]

end Placard.Target
