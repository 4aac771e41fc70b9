import Placard.Proofs.Json.Building
import Placard.Proofs.Json.Nested
import Placard.Proofs.Result

/-! What can be read of a text at all. The draft of any text is one from which values are read whose
objects are in order and whose brackets are not nested deeper than they may be: what is torn is not
read, and what is whole is put together from entries of which the same holds. -/
namespace Placard.Json

def IsNumber : Json → Prop
  | .int _ | .float _ => True
  | _ => False

def Lexeme.Numeric (P : Json → Prop) (lexeme : Lexeme) : Prop :=
  ∀ v, lexeme = .number (.ok v) → P v

theorem numeric_broken (quoted : Bool) (read skip : Fault) :
    Lexeme.Numeric IsNumber (.broken quoted read skip) := by
  rintro v ⟨⟩

theorem isNumber_scaleDouble {negative : Bool} {stop fuel : Nat} {f : Double} {exponent : Int}
    {v : Json} (made : scaleDouble negative stop fuel f exponent = .ok v) : IsNumber v := by
  fun_induction scaleDouble negative stop fuel f exponent with
  | case1 | case2 | case3 | case5 =>
    cases made
    trivial
  | case4 | case6 => cases made
  | case7 _ _ _ _ _ _ ih => exact ih made

theorem isNumber_integerValue {negative : Bool} {s : Significand} {stop : Nat} {v : Json}
    (made : integerValue negative s stop = .ok v) : IsNumber v := by
  unfold integerValue at made
  split at made
  · exact isNumber_scaleDouble made
  · split at made
    · cases made
      trivial
    · split at made <;>
      · cases made
        trivial

theorem isNumber_exponentValue {negative : Bool} {significand : Nat} {start : Int} {down : Bool}
    {digits : List Char} {offset : Nat} {v : Json}
    (made : exponentValue negative significand start down digits offset = .ok v) : IsNumber v := by
  unfold exponentValue at made
  split at made
  · exact isNumber_scaleDouble made
  · split at made
    · cases made
    · cases made
      trivial

theorem numeric_number {n : Except Fault Json} (made : ∀ v, n = .ok v → IsNumber v) :
    Lexeme.Numeric IsNumber (.number n) := by
  rintro v ⟨⟩
  exact made v rfl

theorem numeric_scanExponentDigits (negative : Bool) (significand : Nat) (start : Int) (down : Bool)
    (offset : Nat) (cs : List Char) :
    (scanExponentDigits negative significand start down offset cs).lexeme.Numeric IsNumber := by
  unfold scanExponentDigits
  split
  · exact numeric_broken _ _ _
  · split
    · exact numeric_number fun v => isNumber_exponentValue
    · exact numeric_broken _ _ _

theorem numeric_scanExponent {negative : Bool} {significand : Nat} {start : Int}
    {plain : Except Fault Json} (made : ∀ v, plain = .ok v → IsNumber v) (offset : Nat)
    (cs : List Char) :
    (scanExponent negative significand start plain offset cs).lexeme.Numeric IsNumber := by
  unfold scanExponent
  split
  · exact numeric_number made
  · split
    · exact numeric_scanExponentDigits _ _ _ _ _ _
    · exact numeric_number made

theorem numeric_scanFraction (negative : Bool) (s : Significand) (offset : Nat) (cs : List Char) :
    (scanFraction negative s offset cs).lexeme.Numeric IsNumber := by
  unfold scanFraction
  split
  · simp only
    split
    · exact numeric_broken _ _ _
    · exact numeric_broken _ _ _
    · exact numeric_scanExponent (fun v => isNumber_scaleDouble) _ _
  · exact numeric_scanExponent (fun v => isNumber_integerValue) _ _

theorem numeric_scanWhole (negative : Bool) (offset : Nat) (first : Char) (cs : List Char) :
    (scanWhole negative offset first cs).lexeme.Numeric IsNumber := by
  unfold scanWhole
  split
  · split
    · exact numeric_broken _ _ _
    · exact numeric_scanFraction _ _ _ _
  · exact numeric_scanFraction _ _ _ _

theorem numeric_scanString (s : Scan) (offset : Nat) (cs : List Char) :
    (scanString s offset cs).lexeme.Numeric IsNumber := by
  fun_induction scanString s offset cs <;> first | assumption | (rintro v ⟨⟩)

theorem numeric_scanWord {lexeme : Lexeme} (numeric : lexeme.Numeric IsNumber) (offset : Nat)
    (word cs : List Char) : (scanWord lexeme offset word cs).lexeme.Numeric IsNumber := by
  fun_induction scanWord lexeme offset word cs with
  | case1 => exact numeric
  | case3 _ _ _ _ ih => exact ih
  | _ => exact numeric_broken _ _ _

theorem numeric_scan (c : Char) (offset : Nat) (rest : List Char) :
    (scan c offset rest).lexeme.Numeric IsNumber := by
  unfold scan
  split
  next lexeme mark =>
    rintro v rfl
    unfold mark? at mark
    split at mark <;> cases mark
  next =>
    have word {lexeme : Lexeme} (numeric : lexeme.Numeric IsNumber) (word : List Char) :
        (scanWord lexeme (offset + 1) word rest).lexeme.Numeric IsNumber := numeric_scanWord numeric _ _ _
    split
    · exact numeric_scanString _ _ _
    split
    · exact word (by rintro v ⟨⟩) _
    split
    · exact word (by rintro v ⟨⟩) _
    split
    · exact word (by rintro v ⟨⟩) _
    split
    · unfold scanNegative
      split
      · exact numeric_broken _ _ _
      · split
        · exact numeric_scanWhole _ _ _ _
        · exact numeric_broken _ _ _
    split
    · exact numeric_scanWhole _ _ _ _
    · rintro v ⟨⟩

/-- What a text calls a number is one. -/
theorem numeric_tokens (offset : Nat) (text : List Char) :
    ∀ t ∈ tokens offset text, t.lexeme.Numeric IsNumber := by
  fun_induction tokens offset text with
  | case1 => exact List.forall_mem_nil _
  | case2 _ _ _ _ ih => exact ih
  | case3 offset c rest _ ih => exact List.forall_mem_cons.mpr ⟨numeric_scan c offset rest,ih⟩

/-- Objects are in order, brackets are not nested deeper than they may be, and numbers are among
these. -/
structure Tidy (P : Json → Prop) (depth : Nat) (v : Json) : Prop where
  ordered : Each IsOrdered v
  shallow : Shallow depth v
  numbers : Each (fun u => IsNumber u → P u) v

variable {P : Json → Prop}

def Draft.Torn (d : Draft) : Prop := ∀ depth v, readDraft depth d ≠ .ok v

def Draft.Sound (P : Json → Prop) (d : Draft) : Prop :=
  ∀ depth v, readDraft depth d = .ok v → Tidy P depth v

theorem Draft.Torn.sound {d : Draft} (torn : d.Torn) : d.Sound P :=
  fun depth v read => absurd read (torn depth v)

theorem torn_broken (choice : Fault) (flaw : Flaw) : (Draft.broken choice flaw).Torn := by
  rintro depth v ⟨⟩

theorem torn_list (start : Nat) (items : List (Draft × Stand)) (flaw : Flaw) :
    (Draft.list start items (.torn flaw)).Torn := by
  intro depth v read
  cases depth with
  | zero => cases read
  | succ depth =>
    cases within : readItems depth items <;> simp [readDraft,within,Bind.bind,Except.bind] at read

theorem torn_map (start : Nat) (members : List (Name × (Draft × Stand))) (flaw : Flaw) :
    (Draft.map start members (.torn flaw)).Torn := by
  intro depth v read
  cases depth with
  | zero => cases read
  | succ depth =>
    cases within : readMembers depth [] members <;>
      simp [readDraft,within,Bind.bind,Except.bind] at read

/-- A flaw tears all brackets around it. -/
theorem torn_tear (flaw : Flaw) (stack : List Frame) {d : Draft} (torn : d.Torn) :
    (tear flaw stack d).Torn := by
  induction stack generalizing d with
  | nil => exact torn
  | cons f stack ih =>
    cases f with
    | list => exact ih (torn_list _ _ _)
    | map => exact ih (torn_map _ _ _)
    | member => exact ih (torn_map _ _ _)

theorem torn_tearHere (flaw : Flaw) (stack : List Frame) : (tearHere flaw stack).Torn := by
  cases stack with
  | nil => exact torn_broken _ _
  | cons f stack =>
    cases f with
    | list => exact torn_tear _ _ (torn_list _ _ _)
    | map => exact torn_tear _ _ (torn_map _ _ _)
    | member => exact torn_tear _ _ (torn_broken _ _)

theorem IsNumber.isLeaf {v : Json} (number : IsNumber v) : IsLeaf v := by
  cases v with
  | arr | obj => exact number
  | _ => trivial

theorem tidy_leaf {v : Json} (leaf : IsLeaf v) (number : IsNumber v → P v) (depth : Nat) :
    Tidy P depth v := by
  have numbers : Each (fun u => IsNumber u → P u) v := (each_leaf_iff leaf).mpr number
  cases v with
  | arr | obj => cases leaf
  | _ => exact ⟨(each_leaf_iff leaf).mpr trivial,by constructor,numbers⟩

theorem sound_null (start stop : Nat) : (Draft.null start stop).Sound P := by
  rintro depth v ⟨⟩
  exact tidy_leaf (v := .null) trivial False.elim depth

theorem sound_bool (b : Bool) (start stop : Nat) : (Draft.bool b start stop).Sound P := by
  rintro depth v ⟨⟩
  exact tidy_leaf (v := .bool b) trivial False.elim depth

theorem sound_number (leaves : ∀ v, P v → IsLeaf v) {n : Except Fault Json}
    (numeric : Lexeme.Numeric P (.number n)) (start stop : Nat) :
    (Draft.number n start stop).Sound P := by
  rintro depth v rfl
  exact tidy_leaf (leaves v (numeric v rfl)) (fun _ => numeric v rfl) depth

theorem sound_string (s : Except Fault String) (stop : Nat) : (Draft.string s stop).Sound P := by
  intro depth v read
  cases s with
  | error fault => cases read
  | ok s =>
    cases read
    exact tidy_leaf (v := .str s) trivial False.elim depth

theorem readItems_tidy {items : List (Draft × Stand)} (sound : ∀ i ∈ items, i.1.Sound P)
    {depth : Nat} {vs : List Json} (read : readItems depth items = .ok vs) :
    ∀ v ∈ vs, Tidy P depth v := by
  induction items generalizing vs with
  | nil =>
    cases read
    exact List.forall_mem_nil _
  | cons i items ih =>
    obtain ⟨here,later⟩ := List.forall_mem_cons.mp sound
    obtain ⟨d,stand⟩ := i
    cases first : readDraft depth d with
    | error fault => simp [readItems,first,Bind.bind,Except.bind] at read
    | ok v =>
      cases rest : readItems depth items with
      | error fault => simp [readItems,first,rest,Bind.bind,Except.bind] at read
      | ok us =>
        simp only [readItems,first,rest,Bind.bind,Except.bind,Except.ok.injEq] at read
        subst read
        exact List.forall_mem_cons.mpr ⟨here depth v first,ih later rest⟩

/-- Members keep the fields in order whatever the order they come in. -/
theorem readMembers_tidy {members : List (Name × (Draft × Stand))}
    (sound : ∀ m ∈ members, m.2.1.Sound P) {depth : Nat} {done fields : List (String × Json)}
    (sorted : Ascending done) (tidy : ∀ f ∈ done, Tidy P depth f.2)
    (read : readMembers depth done members = .ok fields) :
    Ascending fields ∧ ∀ f ∈ fields, Tidy P depth f.2 := by
  induction members generalizing done with
  | nil =>
    cases read
    exact ⟨sorted,tidy⟩
  | cons m members ih =>
    obtain ⟨here,later⟩ := List.forall_mem_cons.mp sound
    obtain ⟨name,d,stand⟩ := m
    cases named : name.text with
    | error fault => simp [readMembers,named,Bind.bind,Except.bind] at read
    | ok n =>
      cases first : readDraft depth d with
      | error fault => simp [readMembers,named,first,Bind.bind,Except.bind] at read
      | ok v =>
        simp only [readMembers,named,first,Bind.bind,Except.bind] at read
        refine ih later (ascending_insertField sorted n v) (fun f member => ?_) read
        rcases mem_insertField member with rfl | member
        · exact here depth v first
        · exact tidy f member

theorem sound_list {items : List (Draft × Stand)} (sound : ∀ i ∈ items, i.1.Sound P)
    (start stop : Nat) : (Draft.list start items (.closed stop)).Sound P := by
  intro depth v read
  cases depth with
  | zero => cases read
  | succ depth =>
    cases within : readItems depth items with
    | error fault => simp [readDraft,within,Bind.bind,Except.bind] at read
    | ok vs =>
      simp only [readDraft,within,Bind.bind,Except.bind,Except.ok.injEq] at read
      subst read
      have tidy := readItems_tidy sound within
      exact ⟨each_arr_iff.mpr ⟨trivial,fun v member => (tidy v member).ordered⟩,
        .arr fun v member => (tidy v member).shallow,
        each_arr_iff.mpr ⟨False.elim,fun v member => (tidy v member).numbers⟩⟩

theorem sound_map {members : List (Name × (Draft × Stand))}
    (sound : ∀ m ∈ members, m.2.1.Sound P) (start stop : Nat) :
    (Draft.map start members (.closed stop)).Sound P := by
  intro depth v read
  cases depth with
  | zero => cases read
  | succ depth =>
    cases within : readMembers depth [] members with
    | error fault => simp [readDraft,within,Bind.bind,Except.bind] at read
    | ok fields =>
      simp only [readDraft,within,Bind.bind,Except.bind,Except.ok.injEq] at read
      subst read
      obtain ⟨sorted,tidy⟩ := readMembers_tidy sound ascending_nil (List.forall_mem_nil _) within
      exact ⟨each_obj_iff.mpr ⟨sorted,fun f member => (tidy f member).ordered⟩,
        .obj fun f member => (tidy f member).shallow,
        each_obj_iff.mpr ⟨False.elim,fun f member => (tidy f member).numbers⟩⟩

def Frame.Sound (P : Json → Prop) : Frame → Prop
  | .list _ items => ∀ i ∈ items, i.1.Sound P
  | .map _ members => ∀ m ∈ members, m.2.1.Sound P
  | .member _ members _ => ∀ m ∈ members, m.2.1.Sound P

theorem sound_close_list {start stop : Nat} {items : List (Draft × Stand)}
    (frame : (Frame.list start items).Sound P) :
    (Draft.list start items.reverse (.closed stop)).Sound P :=
  sound_list (fun i member => frame i (List.mem_reverse.mp member)) start stop

theorem sound_close_map {start stop : Nat} {members : List (Name × (Draft × Stand))}
    (frame : (Frame.map start members).Sound P) :
    (Draft.map start members.reverse (.closed stop)).Sound P :=
  sound_map (fun m member => frame m (List.mem_reverse.mp member)) start stop

/-- Where a sound draft takes its place, all that is open stays sound. -/
theorem sound_place {length : Nat} {d : Draft} (sound : d.Sound P) {rest : List Token}
    {stack placed : List Frame} (frames : ∀ f ∈ stack, f.Sound P)
    (put : place? length d rest stack = some placed) : ∀ f ∈ placed, f.Sound P := by
  cases stack with
  | nil => cases put
  | cons f stack =>
    obtain ⟨here,later⟩ := List.forall_mem_cons.mp frames
    cases f with
    | list start items =>
      cases put
      exact List.forall_mem_cons.mpr ⟨List.forall_mem_cons.mpr ⟨sound,here⟩,later⟩
    | map start members =>
      cases put
      exact frames
    | member start members name =>
      cases put
      exact List.forall_mem_cons.mpr ⟨List.forall_mem_cons.mpr ⟨sound,here⟩,later⟩

def BuildsSound (P : Json → Prop) (length : Nat) (ts : List Token) : Prop :=
  ∀ stack wanted, (∀ f ∈ stack, f.Sound P) → (build length stack wanted ts).draft.Sound P

section step

variable {length start stop : Nat} {rest : List Token} (later : BuildsSound P length rest)
variable {stack : List Frame} (frames : ∀ f ∈ stack, f.Sound P)

theorem sound_tearHere (flaw : Flaw) (stack : List Frame) : (tearHere flaw stack).Sound P :=
  (torn_tearHere flaw stack).sound

include later frames

theorem sound_settle {d : Draft} (sound : d.Sound P) :
    (settle length d stack rest).draft.Sound P := by
  unfold settle
  split
  · exact sound
  next placed put => exact later placed .separator (sound_place sound frames put)

theorem sound_value (leaves : ∀ v, P v → IsLeaf v) {lexeme : Lexeme} (numeric : lexeme.Numeric P) :
    (build length stack .value (⟨lexeme,start,stop⟩ :: rest)).draft.Sound P := by
  cases lexeme with
  | null => exact sound_settle later frames (sound_null start stop)
  | bool b => exact sound_settle later frames (sound_bool b start stop)
  | number n => exact sound_settle later frames (sound_number leaves numeric start stop)
  | string s => exact sound_settle later frames (sound_string s stop)
  | openBracket =>
    have opened : (Frame.list start []).Sound P := List.forall_mem_nil _
    exact later _ .firstItem (List.forall_mem_cons.mpr ⟨opened,frames⟩)
  | openBrace =>
    have opened : (Frame.map start []).Sound P := List.forall_mem_nil _
    exact later _ .firstName (List.forall_mem_cons.mpr ⟨opened,frames⟩)
  | _ => exact (torn_tear _ stack (torn_broken _ _)).sound

theorem sound_name (lexeme : Lexeme) :
    (build length stack .name (⟨lexeme,start,stop⟩ :: rest)).draft.Sound P := by
  cases lexeme with
  | string s =>
    cases stack with
    | nil => exact sound_tearHere _ []
    | cons f stack =>
      cases f with
      | list s items => exact sound_tearHere _ (.list s items :: stack)
      | map s members =>
        obtain ⟨frame,outer⟩ := List.forall_mem_cons.mp frames
        have opened (name : Name) : (Frame.member s members name).Sound P := frame
        exact later _ .colon (List.forall_mem_cons.mpr ⟨opened _,outer⟩)
      | member s members name => exact sound_tearHere _ (.member s members name :: stack)
  | broken quoted read skip => cases quoted <;> exact sound_tearHere _ stack
  | _ => exact sound_tearHere _ stack

theorem sound_firstItem (leaves : ∀ v, P v → IsLeaf v) {lexeme : Lexeme} (numeric : lexeme.Numeric P) :
    (build length stack .firstItem (⟨lexeme,start,stop⟩ :: rest)).draft.Sound P := by
  cases lexeme with
  | closeBracket =>
    cases stack with
    | nil => exact sound_value later frames leaves numeric
    | cons f stack =>
      cases f with
      | list s items =>
        obtain ⟨frame,outer⟩ := List.forall_mem_cons.mp frames
        exact sound_settle later outer (sound_close_list frame)
      | _ => exact sound_value later frames leaves numeric
  | _ => exact sound_value later frames leaves numeric

theorem sound_firstName (lexeme : Lexeme) :
    (build length stack .firstName (⟨lexeme,start,stop⟩ :: rest)).draft.Sound P := by
  have name : (build length stack .name (⟨lexeme,start,stop⟩ :: rest)).draft.Sound P :=
    sound_name later frames lexeme
  cases lexeme with
  | closeBrace =>
    cases stack with
    | nil => exact sound_tearHere _ []
    | cons f stack =>
      cases f with
      | list s items => exact sound_tearHere _ (.list s items :: stack)
      | map s members =>
        obtain ⟨frame,outer⟩ := List.forall_mem_cons.mp frames
        exact sound_settle later outer (sound_close_map frame)
      | member s members n => exact sound_tearHere _ (.member s members n :: stack)
  | _ => exact name

theorem sound_separator (lexeme : Lexeme) :
    (build length stack .separator (⟨lexeme,start,stop⟩ :: rest)).draft.Sound P := by
  cases stack with
  | nil =>
    cases lexeme with
    | comma => exact later [] .name frames
    | _ => exact sound_tearHere _ []
  | cons f stack =>
    obtain ⟨frame,outer⟩ := List.forall_mem_cons.mp frames
    cases f with
    | list s items =>
      cases lexeme with
      | closeBracket => exact sound_settle later outer (sound_close_list frame)
      | comma => exact later (.list s items :: stack) .item frames
      | _ => exact sound_tearHere _ (.list s items :: stack)
    | map s members =>
      cases lexeme with
      | closeBrace => exact sound_settle later outer (sound_close_map frame)
      | comma => exact later (.map s members :: stack) .name frames
      | _ => exact sound_tearHere _ (.map s members :: stack)
    | member s members name =>
      cases lexeme with
      | comma => exact later (.member s members name :: stack) .name frames
      | _ => exact sound_tearHere _ (.member s members name :: stack)

end step

/-- Whatever the lexemes are, the draft that is built of them is sound. -/
theorem sound_build (length : Nat) (leaves : ∀ v, P v → IsLeaf v) {ts : List Token}
    (numeric : ∀ t ∈ ts, t.lexeme.Numeric P) : BuildsSound P length ts := by
  -- By the lexemes that are left, for all brackets that may be open before them.
  induction ts with
  | nil => exact fun stack wanted _ => sound_tearHere _ _
  | cons t rest ih =>
    intro stack wanted frames
    obtain ⟨here,afterwards⟩ := List.forall_mem_cons.mp numeric
    have later := ih afterwards
    obtain ⟨lexeme,start,stop⟩ := t
    cases wanted with
    | value => exact sound_value later frames leaves here
    | firstItem => exact sound_firstItem later frames leaves here
    | item =>
      cases lexeme with
      | closeBracket => exact sound_tearHere _ stack
      | _ => exact sound_value later frames leaves here
    | firstName => exact sound_firstName later frames lexeme
    | name =>
      have name : (build length stack .name (⟨lexeme,start,stop⟩ :: rest)).draft.Sound P :=
        sound_name later frames lexeme
      cases lexeme with
      | closeBrace => exact sound_tearHere _ stack
      | _ => exact name
    | colon =>
      cases lexeme with
      | colon => exact later stack .value frames
      | _ => exact sound_tearHere _ stack
    | separator => exact sound_separator later frames lexeme

/-- What is parsed of a text has its objects in order and its brackets nested no deeper than they
may be, and its numbers are among those of the text. -/
theorem tidy_of_parse {text : String} {v : Json}
    (numeric : ∀ t ∈ tokens 0 text.toList, t.lexeme.Numeric P)
    (parsed : Json.parse text = .ok v) : Tidy P deepest v := by
  have both : ∀ t ∈ tokens 0 text.toList, t.lexeme.Numeric fun v => IsNumber v ∧ P v :=
    fun t member v here => ⟨numeric_tokens 0 text.toList t member v here,numeric t member v here⟩
  have sound : (draft text.toList).draft.Sound fun v => IsNumber v ∧ P v :=
    sound_build _ (fun _ here => here.1.isLeaf) both [] .value (List.forall_mem_nil _)
  cases read : readDraft deepest (draft text.toList).draft with
  | error fault => simp [Json.parse,parseFault,read,Bind.bind,Except.bind] at parsed
  | ok u =>
    cases after : nothingAfter (draft text.toList).rest with
    | error fault =>
      simp [Json.parse,parseFault,read,after,Bind.bind,Except.bind] at parsed
    | ok _ =>
      simp only [Json.parse,parseFault,read,after,Bind.bind,Except.bind,mapError_ok,
        Except.ok.injEq] at parsed
      subst parsed
      obtain ⟨ordered,shallow,numbers⟩ := sound deepest u read
      exact ⟨ordered,shallow,numbers.imp fun _ here number => (here number).2⟩

end Placard.Json
