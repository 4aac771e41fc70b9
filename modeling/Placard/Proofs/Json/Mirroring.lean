import Mathlib.Data.List.Forall2
import Placard.Proofs.Json.Building
import Placard.Proofs.Json.Nested
import Placard.Proofs.Result

/-! Drafts of printed values. A printed value goes where its place in the row of lexemes is, as a
draft that holds it entry by entry, members in the order in which they are written. -/
namespace Placard.Json

/-- The draft is whole, and holds the value entry by entry. -/
inductive Mirrors : Draft → Json → Prop
  | null (start stop : Nat) : Mirrors (.null start stop) .null
  | bool (b : Bool) (start stop : Nat) : Mirrors (.bool b start stop) (.bool b)
  | int (i : Int) (start stop : Nat) : Mirrors (.number (.ok (.int i)) start stop) (.int i)
  | float (d : Double) (start stop : Nat) :
    Mirrors (.number (.ok (.float d)) start stop) (.float d)
  | str (s : String) (stop : Nat) : Mirrors (.string (.ok s) stop) (.str s)
  | arr {start stop : Nat} {items : List (Draft × Stand)} {vs : List Json} :
    items.Forall₂ (fun i v => Mirrors i.1 v) vs →
    Mirrors (.list start items (.closed stop)) (.arr vs)
  | obj {start stop : Nat} {members : List (Name × (Draft × Stand))}
    {fields : List (String × Json)} :
    members.Forall₂ (fun m f => m.1.text = .ok f.1) fields →
    members.Forall₂ (fun m f => Mirrors m.2.1 f.2) fields →
    Mirrors (.map start members (.closed stop)) (.obj fields)

/-- Wherever a value may stand, the text is built into a draft of which `P` holds. -/
def Drafts (text : List Char) (P : Draft → Prop) : Prop :=
  ∀ length stack wanted offset rest, WantsValue wanted → EndsNumber rest → ∃ d stop,
    build length stack wanted (tokens offset (text ++ rest)) =
      settle length d stack (tokens stop rest) ∧ P d

def Mirrored (text : List Char) (v : Json) : Prop := Drafts text (Mirrors · v)

theorem Drafts.imp {text : List Char} {P Q : Draft → Prop} (drafts : Drafts text P)
    (imp : ∀ d, P d → Q d) : Drafts text Q := by
  intro length stack wanted offset rest wants ends
  obtain ⟨d,stop,built,holds⟩ := drafts length stack wanted offset rest wants ends
  exact ⟨d,stop,built,imp d holds⟩

theorem Drafts.space {c : Char} (space : Text.isSpace c) {text : List Char} {P : Draft → Prop}
    (drafts : Drafts text P) : Drafts (c :: text) P := by
  intro length stack wanted offset rest wants ends
  rw [List.cons_append,tokens_space space]
  exact drafts length stack wanted (offset + 1) rest wants ends

theorem Drafts.spaceAfter {c : Char} (space : Text.isSpace c) {text : List Char} {P : Draft → Prop}
    (drafts : Drafts text P) : Drafts (text ++ [c]) P := by
  intro length stack wanted offset rest wants ends
  obtain ⟨d,stop,built,holds⟩ := drafts length stack wanted offset (c :: rest) wants
    (endsNumber_space space rest)
  refine ⟨d,stop + 1,?_,holds⟩
  rw [List.append_assoc,List.singleton_append,built,tokens_space space]

/-- A text that is one value has a draft after which nothing is left. -/
theorem Drafts.draft {text : List Char} {P : Draft → Prop} (drafts : Drafts text P) :
    ∃ d, draft text = ⟨d,[]⟩ ∧ P d := by
  obtain ⟨d,stop,built,holds⟩ := drafts (byteLength text) [] .value 0 [] .value endsNumber_nil
  refine ⟨d,?_,holds⟩
  rw [List.append_nil] at built
  rw [Json.draft,built,tokens]
  rfl

/-- In a list that is open, the text is built into items of which `P` holds, up to the bracket that
closes the list. -/
def DraftsItems (text : List Char) (P : List (Draft × Stand) → Prop) : Prop :=
  ∀ length stack wanted offset s before rest, WantsValue wanted → ∃ items close stop,
    build length (.list s before :: stack) wanted (tokens offset (text ++ ']' :: rest)) =
      settle length (.list s (before.reverse ++ items) (.closed close)) stack (tokens stop rest) ∧
    P items

def DraftsMembers (text : List Char) (P : List (Name × (Draft × Stand)) → Prop) : Prop :=
  ∀ length stack wanted offset s before rest, WantsName wanted → ∃ members close stop,
    build length (.map s before :: stack) wanted (tokens offset (text ++ '}' :: rest)) =
      settle length (.map s (before.reverse ++ members) (.closed close)) stack (tokens stop rest) ∧
    P members

def LexesString (text : List Char) (P : Except Fault String → Prop) : Prop :=
  ∀ offset rest, EndsNumber rest → ∃ s start stop next,
    tokens offset (text ++ rest) = ⟨.string s,start,stop⟩ :: tokens next rest ∧ P s

theorem lexesString_encodeString (n : String) : LexesString (encodeString n) (· = .ok n) := by
  intro offset rest ends
  obtain ⟨stop,read⟩ := lexes_encodeString n offset rest ends
  exact ⟨_,offset,stop,stop,read,rfl⟩

section brackets

variable {R : Draft → β → Prop} {N : Except Fault String → γ → Prop} {v : β} {n : γ}
  {text more name : List Char}

theorem Drafts.lastItem (drafts : Drafts text (R · v)) :
    DraftsItems text (List.Forall₂ (fun i u => R i.1 u) · [v]) := by
  intro length stack wanted offset s before rest wants
  obtain ⟨d,stop,built,holds⟩ := drafts length (.list s before :: stack) wanted offset (']' :: rest)
    wants (endsNumber_cons (by decide) rest)
  rw [tokens_mark rfl rfl,settle_item_close,List.reverse_cons] at built
  exact ⟨[(d,_)],_,_,built,.cons holds .nil⟩

theorem Drafts.consItem (drafts : Drafts text (R · v)) {vs : List β}
    (later : DraftsItems more (List.Forall₂ (fun i u => R i.1 u) · vs)) :
    DraftsItems (text ++ ',' :: more) (List.Forall₂ (fun i u => R i.1 u) · (v :: vs)) := by
  intro length stack wanted offset s before rest wants
  obtain ⟨d,stop,built,holds⟩ := drafts length (.list s before :: stack) wanted offset
    (',' :: (more ++ ']' :: rest)) wants (endsNumber_cons (by decide) _)
  rw [tokens_mark rfl rfl,settle_item_comma] at built
  obtain ⟨items,close,stop',builtLater,holdsLater⟩ := later length stack .item (stop + 1) s
    (_ :: before) rest .item
  rw [builtLater,List.reverse_cons,List.append_assoc,List.singleton_append] at built
  have row : text ++ ',' :: more ++ ']' :: rest = text ++ ',' :: (more ++ ']' :: rest) := by simp
  rw [← row] at built
  exact ⟨(d,_) :: items,close,stop',built,.cons holds holdsLater⟩

theorem DraftsItems.list {P : List (Draft × Stand) → Prop} (items : DraftsItems text P)
    {Q : Draft → Prop} (whole : ∀ {start stop items}, P items → Q (.list start items (.closed stop))) :
    Drafts ('[' :: (text ++ [']'])) Q := by
  intro length stack wanted offset rest wants ends
  rw [List.cons_append,List.append_assoc,List.singleton_append,tokens_mark rfl rfl,
    build_wanted wants (by simp),build_openBracket]
  obtain ⟨drafts,close,stop,built,holds⟩ := items length stack .firstItem (offset + 1) offset [] rest
    .firstItem
  exact ⟨_,stop,built,whole holds⟩

theorem tokens_white {white : List Char} (blank : ∀ c ∈ white, Text.isSpace c) (offset : Nat)
    (rest : List Char) : tokens offset (white ++ rest) = tokens (offset + white.length) rest := by
  induction white generalizing offset with
  | nil => rfl
  | cons c white ih =>
    obtain ⟨first,later⟩ := List.forall_mem_cons.mp blank
    rw [List.cons_append,tokens_space first,ih later,List.length_cons]
    congr 1
    omega

theorem drafts_noItems {white : List Char} (blank : ∀ c ∈ white, Text.isSpace c) {Q : Draft → Prop}
    (whole : ∀ {start stop}, Q (.list start [] (.closed stop))) :
    Drafts ('[' :: (white ++ [']'])) Q := by
  intro length stack wanted offset rest wants ends
  rw [List.cons_append,List.append_assoc,List.singleton_append,tokens_mark rfl rfl,
    build_wanted wants (by simp),build_openBracket,tokens_white blank,tokens_mark rfl rfl,
    build_empty_list]
  exact ⟨_,_,rfl,whole⟩

/-- Members are named and hold drafts as the fields say. -/
def Rows (N : Except Fault String → γ → Prop) (R : Draft → β → Prop)
    (members : List (Name × (Draft × Stand))) (fields : List (γ × β)) : Prop :=
  members.Forall₂ (fun m f => N m.1.text f.1) fields ∧
    members.Forall₂ (fun m f => R m.2.1 f.2) fields

theorem build_named {M : Except Fault String → Prop} {P : Draft → Prop} (named : LexesString name M)
    (drafts : Drafts text P) (length : Nat) (stack : List Frame) {wanted : Wanted}
    (wants : WantsName wanted) (offset s : Nat) (before : List (Name × (Draft × Stand)))
    {rest : List Char} (ends : EndsNumber rest) :
    ∃ member d stop, build length (.map s before :: stack) wanted
        (tokens offset (name ++ ':' :: (text ++ rest))) =
      settle length d (.member s before member :: stack) (tokens stop rest) ∧
      M member.text ∧ P d := by
  obtain ⟨n,start,stop,next,read,here⟩ := named offset (':' :: (text ++ rest))
    (endsNumber_cons (by decide) _)
  rw [tokens_mark rfl rfl] at read
  rw [read,build_member wants]
  obtain ⟨d,stop',built,holds⟩ := drafts length (.member s before ⟨n,stop,_⟩ :: stack) .value
    (next + 1) rest .value ends
  exact ⟨_,d,stop',built,here,holds⟩

theorem LexesString.lastMember (named : LexesString name (N · n)) (drafts : Drafts text (R · v)) :
    DraftsMembers (name ++ ':' :: text) (Rows N R · [(n,v)]) := by
  intro length stack wanted offset s before rest wants
  have ends : EndsNumber ('}' :: rest) := endsNumber_cons (by decide) rest
  obtain ⟨member,d,stop,built,here,holds⟩ := build_named named drafts length stack wants offset s
    before ends
  rw [tokens_mark rfl rfl,settle_member_close,List.reverse_cons] at built
  have row : name ++ ':' :: text ++ '}' :: rest = name ++ ':' :: (text ++ '}' :: rest) := by simp
  rw [← row] at built
  exact ⟨[(member,(d,_))],_,_,built,.cons here .nil,.cons holds .nil⟩

theorem LexesString.consMember (named : LexesString name (N · n)) (drafts : Drafts text (R · v))
    {fields : List (γ × β)} (later : DraftsMembers more (Rows N R · fields)) :
    DraftsMembers (name ++ ':' :: (text ++ ',' :: more)) (Rows N R · ((n,v) :: fields)) := by
  intro length stack wanted offset s before rest wants
  have ends : EndsNumber (',' :: (more ++ '}' :: rest)) := endsNumber_cons (by decide) _
  obtain ⟨member,d,stop,built,here,holds⟩ := build_named named drafts length stack wants offset s
    before ends
  rw [tokens_mark rfl rfl,settle_member_comma] at built
  obtain ⟨members,close,stop',builtLater,names,holdsLater⟩ := later length stack .name (stop + 1) s
    (_ :: before) rest .name
  rw [builtLater,List.reverse_cons,List.append_assoc,List.singleton_append] at built
  have row : name ++ ':' :: (text ++ ',' :: more) ++ '}' :: rest =
      name ++ ':' :: (text ++ ',' :: (more ++ '}' :: rest)) := by simp
  rw [← row] at built
  exact ⟨(member,(d,_)) :: members,close,stop',built,.cons here names,.cons holds holdsLater⟩

theorem DraftsMembers.map {P : List (Name × (Draft × Stand)) → Prop} (members : DraftsMembers text P)
    {Q : Draft → Prop}
    (whole : ∀ {start stop members}, P members → Q (.map start members (.closed stop))) :
    Drafts ('{' :: (text ++ ['}'])) Q := by
  intro length stack wanted offset rest wants ends
  rw [List.cons_append,List.append_assoc,List.singleton_append,tokens_mark rfl rfl,
    build_wanted wants (by simp),build_openBrace]
  obtain ⟨drafts,close,stop,built,holds⟩ := members length stack .firstName (offset + 1) offset []
    rest .firstName
  exact ⟨_,stop,built,whole holds⟩

theorem drafts_noMembers {white : List Char} (blank : ∀ c ∈ white, Text.isSpace c)
    {Q : Draft → Prop} (whole : ∀ {start stop}, Q (.map start [] (.closed stop))) :
    Drafts ('{' :: (white ++ ['}'])) Q := by
  intro length stack wanted offset rest wants ends
  rw [List.cons_append,List.append_assoc,List.singleton_append,tokens_mark rfl rfl,
    build_wanted wants (by simp),build_openBrace,tokens_white blank,tokens_mark rfl rfl,
    build_empty_map]
  exact ⟨_,_,rfl,whole⟩

end brackets

/-- A text that is one lexeme gives what the lexeme stands for. -/
theorem mirrored_of_lexes {text : List Char} {lexeme : Lexeme} {v : Json} (lexes : Lexes text lexeme)
    (opens : lexeme ≠ .closeBracket) (draft : Nat → Nat → Draft)
    (builds : ∀ {length start stop stack rest}, build length stack .value
      (⟨lexeme,start,stop⟩ :: rest) = settle length (draft start stop) stack rest)
    (mirrors : ∀ start stop, Mirrors (draft start stop) v) : Mirrored text v := by
  intro length stack wanted offset rest wants ends
  obtain ⟨stop,read⟩ := lexes offset rest ends
  refine ⟨draft offset stop,stop,?_,mirrors offset stop⟩
  rw [read,build_wanted wants opens,builds]

theorem mirrored_null : Mirrored ['n','u','l','l'] .null :=
  mirrored_of_lexes lexes_null (by simp) .null build_null .null

theorem mirrored_true : Mirrored ['t','r','u','e'] (.bool true) :=
  mirrored_of_lexes lexes_true (by simp) (.bool true) (build_bool true) (.bool true)

theorem mirrored_false : Mirrored ['f','a','l','s','e'] (.bool false) :=
  mirrored_of_lexes lexes_false (by simp) (.bool false) (build_bool false) (.bool false)

theorem mirrored_int {i : Int} (word : IsWord i) : Mirrored (numberText i) (.int i) :=
  mirrored_of_lexes (lexes_numberText word) (by simp) (.number (.ok (.int i))) (build_number _)
    (.int i)

theorem mirrored_negativeZero : Mirrored (floatText (.zero true)) (.float (.zero true)) :=
  mirrored_of_lexes lexes_negativeZero (by simp) (.number (.ok (.float (.zero true))))
    (build_number _) (.float _)

theorem mirrored_str (s : String) : Mirrored (encodeString s) (.str s) :=
  mirrored_of_lexes (lexes_encodeString s) (by simp) (fun _ stop => .string (.ok s) stop)
    (build_string _) fun _ stop => .str s stop

theorem draftsItems_print {v : Json} {items : List Json}
    (mirrored : ∀ u ∈ v :: items, Mirrored u.print u) :
    DraftsItems (printItems (v :: items)) (List.Forall₂ (fun i u => Mirrors i.1 u) · (v :: items)) := by
  induction items generalizing v with
  | nil => exact (mirrored v List.mem_cons_self).lastItem
  | cons u items ih =>
    obtain ⟨first,later⟩ := List.forall_mem_cons.mp mirrored
    exact Drafts.consItem first (ih later)

theorem draftsMembers_print {f : String × Json} {fields : List (String × Json)}
    (mirrored : ∀ g ∈ f :: fields, Mirrored g.2.print g.2) :
    DraftsMembers (printFields (f :: fields)) (Rows (· = .ok ·) Mirrors · (f :: fields)) := by
  induction fields generalizing f with
  | nil =>
    have text : printFields [f] = encodeString f.1 ++ ':' :: f.2.print := rfl
    rw [text]
    exact LexesString.lastMember (N := (· = .ok ·)) (lexesString_encodeString f.1)
      (mirrored f List.mem_cons_self)
  | cons g fields ih =>
    obtain ⟨first,later⟩ := List.forall_mem_cons.mp mirrored
    have text : printFields (f :: g :: fields) =
        encodeString f.1 ++ ':' :: (f.2.print ++ ',' :: printFields (g :: fields)) := by
      simp [printFields]
    rw [text]
    exact LexesString.consMember (N := (· = .ok ·)) (lexesString_encodeString f.1) first (ih later)

theorem mirrored_arr {items : List Json} (mirrored : ∀ u ∈ items, Mirrored u.print u) :
    Mirrored (Json.arr items).print (.arr items) := by
  cases items with
  | nil => exact drafts_noItems (List.forall_mem_nil _) (.arr .nil)
  | cons v items => exact (draftsItems_print mirrored).list .arr

theorem mirrored_obj {fields : List (String × Json)}
    (mirrored : ∀ f ∈ fields, Mirrored f.2.print f.2) :
    Mirrored (Json.obj fields).print (.obj fields) := by
  cases fields with
  | nil => exact drafts_noMembers (List.forall_mem_nil _) (.obj .nil .nil)
  | cons f fields => exact (draftsMembers_print mirrored).map fun rows => .obj rows.1 rows.2

/-- A value whose numbers are exact is mirrored by the draft of its printed form, whatever the order
of its members. -/
theorem mirrored_print {v : Json} (exactly : Each IsExact v) : Mirrored v.print v := by
  induction v using nested_induction with
  | null => exact mirrored_null
  | bool b =>
    cases b
    · exact mirrored_false
    · exact mirrored_true
  | int i => exact mirrored_int exactly.self
  | float d =>
    obtain rfl : d = .zero true := exactly.self
    exact mirrored_negativeZero
  | str s => exact mirrored_str s
  | arr items ih =>
    obtain ⟨-,within⟩ := each_arr_iff.mp exactly
    exact mirrored_arr fun u member => ih u member (within u member)
  | obj fields ih =>
    obtain ⟨-,within⟩ := each_obj_iff.mp exactly
    exact mirrored_obj fun f member => ih f member (within f member)

end Placard.Json
