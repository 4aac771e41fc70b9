import Placard.Proofs.Json.Mirroring

/-! Reading what was printed. The draft of a printed value mirrors it, and from such a draft the value
is read again if its fields are in order. -/
namespace Placard.Json

/-- The value is read from the draft, as long as its brackets are not nested too deep. -/
def Reads (d : Draft) (v : Json) : Prop := ∀ depth, Shallow depth v → readDraft depth d = .ok v

def Gives (text : List Char) (v : Json) : Prop :=
  ∀ length stack wanted offset rest, WantsValue wanted → EndsNumber rest → ∃ d stop,
    build length stack wanted (tokens offset (text ++ rest)) =
      settle length d stack (tokens stop rest) ∧ Reads d v

theorem readItems_ok {depth : Nat} {items : List (Draft × Stand)} {vs : List Json}
    (mirrors : items.Forall₂ (fun i v => Mirrors i.1 v) vs)
    (reads : ∀ v ∈ vs, ∀ d, Mirrors d v → readDraft depth d = .ok v) :
    readItems depth items = .ok vs := by
  induction mirrors with
  | nil => rfl
  | cons first _ ih =>
    obtain ⟨here,later⟩ := List.forall_mem_cons.mp reads
    simp [readItems,here _ first,ih later,Bind.bind,Except.bind]

/-- Members whose names ascend are added to those before them. -/
theorem readMembers_ok {depth : Nat} {members : List (Name × (Draft × Stand))}
    {fields before : List (String × Json)}
    (names : members.Forall₂ (fun m f => m.1.text = .ok f.1) fields)
    (mirrors : members.Forall₂ (fun m f => Mirrors m.2.1 f.2) fields)
    (reads : ∀ f ∈ fields, ∀ d, Mirrors d f.2 → readDraft depth d = .ok f.2)
    (sorted : Ascending (before ++ fields)) :
    readMembers depth before members = .ok (before ++ fields) := by
  induction mirrors generalizing before with
  | nil => rw [readMembers,List.append_nil]
  | @cons m f members fields first _ ih =>
    cases names with
    | cons named names =>
      obtain ⟨here,later⟩ := List.forall_mem_cons.mp reads
      have next : insertField f.1 f.2 before = before ++ [f] := insertField_next sorted
      have rest : readMembers depth (before ++ [f]) members = .ok (before ++ [f] ++ fields) :=
        ih names later (by simpa using sorted)
      simpa [readMembers,named,here _ first,next,Bind.bind,Except.bind] using rest

/-- A value in order is read from every draft that mirrors it. -/
theorem Mirrors.reads {d : Draft} {v : Json} (mirrors : Mirrors d v) (ordered : Each IsOrdered v) :
    Reads d v := by
  induction v using nested_induction generalizing d with
  | null | bool | int | float | str =>
    cases mirrors
    exact fun _ _ => rfl
  | arr items ih =>
    obtain ⟨-,ordered⟩ := each_arr_iff.mp ordered
    cases mirrors with
    | arr mirrors =>
      rintro _ ⟨⟩
      rename_i depth within
      have read := readItems_ok mirrors fun v member d mirrors =>
        ih v member mirrors (ordered v member) depth (within v member)
      simp [readDraft,read,Bind.bind,Except.bind]
  | obj fields ih =>
    obtain ⟨sorted,ordered⟩ := each_obj_iff.mp ordered
    cases mirrors with
    | obj names mirrors =>
      rintro _ ⟨⟩
      rename_i depth within
      have read : readMembers depth [] _ = .ok ([] ++ fields) :=
        readMembers_ok names mirrors (fun f member d mirrors =>
          ih f member mirrors (ordered f member) depth (within f member)) sorted
      simp [readDraft,read,Bind.bind,Except.bind]

/-- A value whose objects are in order and whose numbers are exact is given by its printed form. -/
theorem gives_print {v : Json} (ordered : Each IsOrdered v) (exactly : Each IsExact v) :
    Gives v.print v :=
  (mirrored_print exactly).imp fun _ mirrors => mirrors.reads ordered

theorem Gives.space {c : Char} (space : Text.isSpace c) {text : List Char} {v : Json}
    (gives : Gives text v) : Gives (c :: text) v :=
  Drafts.space space gives

theorem Gives.parse {text : List Char} {v : Json} (gives : Gives text v)
    (shallow : Shallow deepest v) : Json.parse (String.ofList text) = .ok v := by
  obtain ⟨d,drafted,reads⟩ := Drafts.draft gives
  simp [Json.parse,parseFault,drafted,reads _ shallow,nothingAfter,Bind.bind,Except.bind]

/-- The compact text of a value is parsed to the value. -/
theorem parse_compact {v : Json} (ordered : Each IsOrdered v) (exactly : Each IsExact v)
    (shallow : Shallow deepest v) : Json.parse v.compact = .ok v :=
  (gives_print ordered exactly).parse shallow

end Placard.Json
