import Placard.Proofs.Text.Case
import Placard.Url.Path

/-! Where the segments of a path lead from a folder. A walk keeps how far it has climbed out of the
folder and what it has come down to since. -/
namespace Placard.Url

def isPlain (c : Char) : Bool := c.isAlphanum || c = '-' || c = '_' || c = '.'

structure IsName (segment : List Char) : Prop where
  plain : ∀ c ∈ segment, isPlain c
  here : segment ≠ ['.']
  above : segment ≠ ['.','.']

instance (segment : List Char) : Decidable (IsName segment) :=
  decidable_of_iff (segment.all isPlain ∧ segment ≠ ['.'] ∧ segment ≠ ['.','.'])
    ⟨fun h => ⟨List.all_eq_true.mp h.1,h.2.1,h.2.2⟩,
      fun h => ⟨List.all_eq_true.mpr h.plain,h.here,h.above⟩⟩

theorem ne_of_isPlain {c d : Char} (plain : isPlain c) (other : isPlain d = false) : c ≠ d := by
  rintro rfl
  simp [plain] at other

theorem range_of_isPlain {c : Char} (plain : isPlain c) : 0x20 < c.toNat ∧ c.toNat < 0x7F := by
  have code : c.toNat = c.val.toNat := rfl
  simp only [isPlain,Char.isAlphanum,Char.isAlpha,Char.isUpper,Char.isLower,Char.isDigit,
    Bool.or_eq_true,Bool.and_eq_true,decide_eq_true_eq,ge_iff_le,UInt32.le_iff_toNat_le] at plain
  rw [code]
  rcases plain with ((((upper | lower) | digit) | rfl) | rfl) | rfl
  · exact ⟨Nat.lt_of_lt_of_le (by decide) upper.1,Nat.lt_of_le_of_lt upper.2 (by decide)⟩
  · exact ⟨Nat.lt_of_lt_of_le (by decide) lower.1,Nat.lt_of_le_of_lt lower.2 (by decide)⟩
  · exact ⟨Nat.lt_of_lt_of_le (by decide) digit.1,Nat.lt_of_le_of_lt digit.2 (by decide)⟩
  all_goals decide

theorem keptInPath_of_isPlain {c : Char} (plain : isPlain c) : keptInPath c := by
  obtain ⟨low,high⟩ := range_of_isPlain plain
  have apart (d : Char) (other : isPlain d = false) : c ≠ d := ne_of_isPlain plain other
  have mark : c.toNat ≠ 0x60 := fun code => by
    have same : c = Char.ofNat 0x60 := by rw [← code,Char.ofNat_toNat]
    exact apart _ (by decide) same
  simp [keptInPath,keptInFragment,isGraphic,low,high,mark,apart '"' (by decide),
    apart '<' (by decide),apart '>' (by decide),apart '#' (by decide),apart '?' (by decide),
    apart '\x7b' (by decide),apart '\x7d' (by decide)]

theorem encode_of_kept {kept : Char → Bool} {s : List Char} (all : ∀ c ∈ s, kept c) :
    encode kept s = s := by
  induction s with
  | nil => rfl
  | cons c rest ih =>
    obtain ⟨first,later⟩ := List.forall_mem_cons.mp all
    rw [encode,List.flatMap_cons,encodeChar,if_pos first,← encode,ih later]
    rfl

theorem plainDots_of_not_mem {s : List Char} (unmarked : '%' ∉ s) : plainDots s = s := by
  fun_induction plainDots s with
  | case1 rest => exact absurd List.mem_cons_self unmarked
  | case2 rest => exact absurd List.mem_cons_self unmarked
  | case3 c rest _ _ ih => rw [ih (mt (List.mem_cons_of_mem c) unmarked)]
  | case4 => rfl

theorem plainDots_of_plain {s : List Char} (plain : ∀ c ∈ s, isPlain c) : plainDots s = s :=
  plainDots_of_not_mem fun member => absurd (plain '%' member) (by decide)

theorem namesDrive_of_plain {s : List Char} (plain : ∀ c ∈ s, isPlain c) : namesDrive s = false := by
  unfold namesDrive
  split
  next c mark rest =>
    have other (d : Char) (special : isPlain d = false) : mark ≠ d :=
      ne_of_isPlain (plain mark (by simp)) special
    simp [other ':' (by decide),other '|' (by decide)]
  next => rfl

namespace IsName

variable {segment : List Char} (name : IsName segment)

include name

theorem isHere : Url.isHere segment = false := by
  simp [Url.isHere,plainDots_of_plain name.plain,name.here]

theorem isAbove : Url.isAbove segment = false := by
  simp [Url.isAbove,plainDots_of_plain name.plain,name.above]

theorem encode : Url.encode keptInPath segment = segment :=
  encode_of_kept fun c member => keptInPath_of_isPlain (name.plain c member)

theorem namesDrive : Url.namesDrive segment = false := namesDrive_of_plain name.plain

end IsName

theorem resolve_cons (done : List (List Char)) (segment : List Char) {rest : List (List Char)}
    (more : rest ≠ []) :
    resolve false done (segment :: rest) = resolve false
      (if isAbove segment then stepBack done
        else if isHere segment then done
        else stepInto false done segment) rest := by
  cases rest with
  | nil => exact absurd rfl more
  | cons next others => rfl

theorem stepInto_eq (done : List (List Char)) (segment : List Char) :
    stepInto false done segment = done ++ [encode keptInPath segment] := rfl

theorem resolve_names {names : List (List Char)} (all : ∀ n ∈ names, IsName n)
    (done : List (List Char)) {rest : List (List Char)} (more : rest ≠ []) :
    resolve false done (names ++ rest) = resolve false (done ++ names) rest := by
  induction names generalizing done with
  | nil => rw [List.nil_append,List.append_nil]
  | cons n names ih =>
    obtain ⟨name,later⟩ := List.forall_mem_cons.mp all
    rw [List.cons_append,resolve_cons _ _ (by simp [more]),name.isAbove,name.isHere,stepInto_eq,
      name.encode]
    simp only [Bool.false_eq_true,if_false]
    rw [ih later,List.append_assoc,List.singleton_append]

/-- How many folders a walk has climbed out of, and the names it has come down since. -/
structure Walk where
  up : Nat
  down : List (List Char)

namespace Walk

def place (folder : List (List Char)) (w : Walk) : List (List Char) :=
  folder.take (folder.length - w.up) ++ w.down

def climbed (folder : List (List Char)) (w : Walk) : List (List Char) :=
  folder.drop (folder.length - w.up)

def step (w : Walk) (segment : List Char) : Walk :=
  if isAbove segment then
    if w.down = [] then ⟨w.up + 1,[]⟩ else ⟨w.up,stepBack w.down⟩
  else if isHere segment then w
  else ⟨w.up,w.down ++ [encode keptInPath segment]⟩

/-- All segments. After dots at the end there is a name without letters. -/
def along (w : Walk) : List (List Char) → Walk
  | [] => w
  | [segment] =>
    if isAbove segment || isHere segment then ⟨(w.step segment).up,(w.step segment).down ++ [[]]⟩
    else w.step segment
  | segment :: next :: rest => (w.step segment).along (next :: rest)

def start : Walk := ⟨0,[]⟩

/-- Segments that are no dots are entered one after the other. -/
theorem along_entered {segments : List (List Char)}
    (entered : ∀ s ∈ segments, isAbove s = false ∧ isHere s = false) (some : segments ≠ []) (w : Walk) :
    w.along segments = ⟨w.up,w.down ++ segments.map (encode keptInPath)⟩ := by
  have enter {s : List Char} (dots : isAbove s = false ∧ isHere s = false) (w : Walk) :
      w.step s = ⟨w.up,w.down ++ [encode keptInPath s]⟩ := by
    simp [step,dots]
  induction segments generalizing w with
  | nil => exact absurd rfl some
  | cons s rest ih =>
    obtain ⟨first,later⟩ := List.forall_mem_cons.mp entered
    cases rest with
    | nil => simp [along,first,enter first]
    | cons next rest =>
      rw [along,ih later (List.cons_ne_nil next rest),enter first,List.append_assoc]
      rfl

variable {folder : List (List Char)}

theorem stepBack_take (names : ∀ n ∈ folder, IsName n) {count : Nat} (within : count ≤ folder.length) :
    stepBack (folder.take count) = folder.take (count - 1) := by
  have none : (folder.take count).getLast?.any namesDrive = false := by
    cases last : (folder.take count).getLast? with
    | none => rfl
    | some n => exact (names n (List.mem_of_mem_take (List.mem_of_getLast? last))).namesDrive
  rw [stepBack,none,List.dropLast_eq_take,List.length_take,List.take_take,
    Nat.min_eq_left within,Nat.min_eq_left (Nat.sub_le count 1)]
  rfl

theorem stepBack_append (front : List (List Char)) {back : List (List Char)} (more : back ≠ []) :
    stepBack (front ++ back) = front ++ stepBack back := by
  have last : (front ++ back).getLast? = back.getLast? := by
    rw [List.getLast?_append,List.getLast?_eq_some_getLast more,Option.some_or]
  rw [stepBack,stepBack,last,apply_ite (front ++ ·),List.dropLast_append_of_ne_nil more]

theorem place_step (names : ∀ n ∈ folder, IsName n) (w : Walk) (segment : List Char) :
    (w.step segment).place folder =
      if isAbove segment then stepBack (w.place folder)
      else if isHere segment then w.place folder
      else stepInto false (w.place folder) segment := by
  rw [step]
  split
  · by_cases out : w.down = []
    · rw [if_pos out,place,place,out,List.append_nil,List.append_nil,
        stepBack_take names (Nat.sub_le _ _),Nat.sub_add_eq]
    · rw [if_neg out,place,place,stepBack_append _ out]
  · split
    · rfl
    · rw [stepInto_eq,place,place,List.append_assoc]

/-- The segments of a path lead where the walk along them comes to. -/
theorem resolve_place (names : ∀ n ∈ folder, IsName n) (w : Walk) (segments : List (List Char)) :
    resolve false (w.place folder) segments = (w.along segments).place folder := by
  induction segments generalizing w with
  | nil => rfl
  | cons segment rest ih =>
    cases rest with
    | nil =>
      simp only [resolve,along,← place_step names]
      split
      · rw [place,place,List.append_assoc]
      · rfl
    | cons next others =>
      rw [resolve_cons _ _ (by simp),← place_step names,ih]
      rfl

/-- A walk along anything has come down to something. -/
theorem down_along (w : Walk) {segments : List (List Char)} (some : segments ≠ []) :
    (w.along segments).down ≠ [] := by
  induction segments generalizing w with
  | nil => exact absurd rfl some
  | cons segment rest ih =>
    cases rest with
    | nil =>
      rw [along]
      split
      · simp
      next other =>
        simp only [Bool.or_eq_true,not_or] at other
        rw [step,if_neg other.1,if_neg other.2]
        simp
    | cons next others => exact ih _ (by simp)

/-- A walk ends in the folder, below it, just if it has come down again by the names that it climbed
out of, and further. -/
theorem place_eq_append_iff (w : Walk) (more : List (List Char)) :
    w.place folder = folder ++ more ↔ w.down = w.climbed folder ++ more := by
  have split : folder ++ more =
      folder.take (folder.length - w.up) ++ (w.climbed folder ++ more) := by
    rw [← List.append_assoc,climbed,List.take_append_drop]
  rw [split,place,List.append_cancel_left_eq]

def isEntered (segment : List Char) : Bool := !isAbove segment && !isHere segment

/-- No beginning of the segments leads back more often than it has led into a folder. -/
def Stays (segments : List (List Char)) : Prop :=
  ∀ front, front <+: segments → front.countP isAbove ≤ front.countP isEntered

instance (segments : List (List Char)) : Decidable (Stays segments) :=
  decidable_of_iff (∀ count, count < segments.length + 1 →
      (segments.take count).countP isAbove ≤ (segments.take count).countP isEntered) <| by
    constructor
    · intro each front begins
      rw [List.prefix_iff_eq_take.mp begins]
      exact each _ (Nat.lt_succ_of_le begins.length_le)
    · exact fun stays count _ => stays _ (List.take_prefix _ _)

theorem step_stays {w : Walk} {depth : Nat} (stays : w.up = 0) (deep : depth ≤ w.down.length)
    {segment : List Char} (within : isAbove segment → 0 < depth) :
    (w.step segment).up = 0 ∧
      depth + (if isEntered segment then 1 else 0) - (if isAbove segment then 1 else 0) ≤
        (w.step segment).down.length := by
  rw [step,isEntered]
  by_cases above : isAbove segment
  · have some : w.down ≠ [] := by
      intro none
      rw [none] at deep
      exact absurd (within above) (by simpa using deep)
    have length : w.down.length - 1 ≤ (stepBack w.down).length := by
      rw [stepBack]
      split
      · exact Nat.sub_le _ _
      · exact Nat.le_of_eq List.length_dropLast.symm
    simp only [above,if_true,if_neg some,Bool.not_true,Bool.false_and,Bool.false_eq_true,if_false]
    exact ⟨stays,by omega⟩
  · by_cases here : isHere segment
    · simpa [above,here] using And.intro stays deep
    · simpa [above,here] using And.intro stays deep

/-- A walk that leads back no more often than into folders does not climb. -/
theorem up_along_of_stays {w : Walk} {depth : Nat} (stays : w.up = 0) (deep : depth ≤ w.down.length)
    {segments : List (List Char)} (back : ∀ front, front <+: segments →
      front.countP isAbove ≤ depth + front.countP isEntered) : (w.along segments).up = 0 := by
  -- `depth` goes along with the walk: so many folders can be left before it would climb.
  induction segments generalizing w depth with
  | nil => exact stays
  | cons segment rest ih =>
    have within : isAbove segment → 0 < depth := by
      intro above
      have first := back [segment] (by simp)
      simp only [List.countP_singleton,above,isEntered] at first
      exact Nat.lt_of_lt_of_le Nat.zero_lt_one (by simpa using first)
    obtain ⟨stays,deep⟩ := step_stays stays deep within
    cases rest with
    | nil =>
      rw [along]
      split <;> exact stays
    | cons next others =>
      refine ih stays deep fun front begins => ?_
      have whole := back (segment :: front) (by simpa using begins)
      rw [List.countP_cons,List.countP_cons] at whole
      by_cases above : isAbove segment
      · have some := within above
        have apart : isEntered segment = false := by simp [isEntered,above]
        simp only [above,apart,if_true,Bool.false_eq_true,if_false] at whole ⊢
        omega
      · simp only [if_neg above] at whole ⊢
        omega

theorem climbed_of_up_eq_zero {w : Walk} (stays : w.up = 0) : w.climbed folder = [] := by
  rw [climbed,stays,Nat.sub_zero,List.drop_length]

end Walk

theorem not_mem_of_mem_splitOn {mark : Char} {s segment : List Char}
    (member : segment ∈ s.splitOn mark) : mark ∉ segment := by
  induction s generalizing segment with
  | nil =>
    rw [List.splitOn_nil,List.mem_singleton] at member
    simp [member]
  | cons c rest ih =>
    rw [List.splitOn_cons_eq_if_modifyHead] at member
    split at member
    · rcases List.mem_cons.mp member with rfl | later
      · simp
      · exact ih later
    next other =>
      cases parts : rest.splitOn mark with
      | nil => exact absurd parts (List.splitOn_ne_nil _ _)
      | cons first others =>
        rw [parts,List.modifyHead_cons] at member
        rcases List.mem_cons.mp member with rfl | later
        · have apart : mark ≠ c := fun same => other (by simp [same])
          exact fun within => (List.mem_cons.mp within).elim apart (ih (by simp [parts]))
        · exact ih (by simp [parts,later])

theorem head_ne_slash_of_filled {s : List Char} (filled : ∀ n ∈ s.splitOn '/', n ≠ []) :
    s.head? ≠ some '/' := by
  intro first
  obtain ⟨rest,split⟩ := List.head?_eq_some_iff.mp first
  have empty : [] ∈ s.splitOn '/' := by
    rw [split,← List.nil_append ('/' :: rest),
      List.splitOn_append_cons_self_of_not_mem List.not_mem_nil]
    exact List.mem_cons_self
  exact filled [] empty rfl

theorem hexDigit_ne {mark : Char} (special : mark.isAlphanum = false) {n : Nat} (small : n < 16) :
    hexDigit n ≠ mark := by
  have letter : (hexDigit n).isAlphanum := by
    revert n
    decide
  rintro rfl
  simp [letter] at special

/-- What is written for a text holds nothing but what is kept of it and what bytes are written with. -/
theorem mem_encode {kept : Char → Bool} {s : List Char} {c : Char} (member : c ∈ encode kept s) :
    c ∈ s ∧ kept c ∨ c = '%' ∨ ∃ n < 16, c = hexDigit n := by
  obtain ⟨d,within,member⟩ := List.mem_flatMap.mp member
  rw [encodeChar] at member
  split at member
  next stays =>
    obtain rfl := List.mem_singleton.mp member
    exact .inl ⟨within,stays⟩
  next =>
    obtain ⟨b,-,member⟩ := List.mem_flatMap.mp member
    have high : b.toNat / 16 < 16 := Nat.div_lt_of_lt_mul b.toNat_lt
    have low : b.toNat % 16 < 16 := Nat.mod_lt _ (by decide)
    simp only [encodeByte,List.mem_cons,List.not_mem_nil,or_false] at member
    rcases member with percent | first | second
    · exact .inr (.inl percent)
    · exact .inr (.inr ⟨_,high,first⟩)
    · exact .inr (.inr ⟨_,low,second⟩)

/-- A mark that bytes are not written with is written only where it stands in the text and is kept. -/
theorem not_mem_encode {mark : Char} (special : mark.isAlphanum = false) (other : mark ≠ '%')
    {kept : Char → Bool} {s : List Char} (gone : mark ∈ s → kept mark = false) :
    mark ∉ encode kept s := by
  intro member
  rcases mem_encode member with ⟨within,stays⟩ | percent | ⟨n,small,digit⟩
  · simp [gone within] at stays
  · exact other percent
  · exact hexDigit_ne special small digit.symm

/-- Encoding makes no slash. -/
theorem slash_not_mem_encode {kept : Char → Bool} {s : List Char} (unslashed : '/' ∉ s) :
    '/' ∉ encode kept s :=
  not_mem_encode (by decide) (by decide) fun member => absurd member unslashed

/-- A walk along segments without slashes comes down to names without slashes. -/
theorem Walk.unslashed_along {segments : List (List Char)} (unslashed : ∀ s ∈ segments, '/' ∉ s)
    {w : Walk} (before : ∀ n ∈ w.down, '/' ∉ n) : ∀ n ∈ (w.along segments).down, '/' ∉ n := by
  have step {w : Walk} (before : ∀ n ∈ w.down, '/' ∉ n) {segment : List Char}
      (plain : '/' ∉ segment) : ∀ n ∈ (w.step segment).down, '/' ∉ n := by
    rw [Walk.step]
    split
    · split
      · exact List.forall_mem_nil _
      · rw [stepBack]
        split
        · exact before
        · exact fun n member => before n (List.dropLast_subset _ member)
    · split
      · exact before
      · exact List.forall_mem_append.mpr
          ⟨before,List.forall_mem_singleton.mpr (slash_not_mem_encode plain)⟩
  induction segments generalizing w with
  | nil => exact before
  | cons segment rest ih =>
    obtain ⟨plain,later⟩ := List.forall_mem_cons.mp unslashed
    cases rest with
    | nil =>
      rw [Walk.along]
      split
      · exact List.forall_mem_append.mpr ⟨step before plain,List.forall_mem_singleton.mpr (by simp)⟩
      · exact step before plain
    | cons next others => exact ih later (step before plain)

def slashed (segments : List (List Char)) : List Char := segments.flatMap fun s => '/' :: s

@[simp] theorem slashed_nil : slashed [] = [] := rfl

@[simp] theorem slashed_cons (s : List Char) (rest : List (List Char)) :
    slashed (s :: rest) = '/' :: (s ++ slashed rest) := by
  simp [slashed]

@[simp] theorem slashed_append (front back : List (List Char)) :
    slashed (front ++ back) = slashed front ++ slashed back := List.flatMap_append

theorem splitOn_slashed {names : List (List Char)} (all : ∀ n ∈ names, '/' ∉ n) (n : List Char)
    (unslashed : '/' ∉ n) (rest : List Char) :
    (n ++ (slashed names ++ '/' :: rest)).splitOn '/' = n :: names ++ rest.splitOn '/' := by
  induction names generalizing n with
  | nil => exact List.splitOn_append_cons_self_of_not_mem unslashed rest
  | cons m names ih =>
    obtain ⟨first,later⟩ := List.forall_mem_cons.mp all
    rw [slashed_cons,List.cons_append,List.append_assoc,
      List.splitOn_append_cons_self_of_not_mem unslashed,ih later m first]
    rfl

theorem encode_slashed {kept : Char → Bool} (slash : kept '/') (segments : List (List Char)) :
    encode kept (slashed segments) = slashed (segments.map (encode kept)) := by
  induction segments with
  | nil => rfl
  | cons s rest ih =>
    rw [slashed_cons,List.map_cons,slashed_cons,← ih]
    simp [encode,encodeChar,slash]

theorem slashed_splitOn (s : List Char) : slashed (s.splitOn '/') = '/' :: s := by
  have joined {segments : List (List Char)} (some : segments ≠ []) :
      slashed segments = '/' :: ['/'].intercalate segments := by
    induction segments with
    | nil => exact absurd rfl some
    | cons n rest ih =>
      cases rest with
      | nil => simp
      | cons m rest =>
        rw [slashed_cons,ih (List.cons_ne_nil m rest),
          List.intercalate_cons_of_ne_nil (List.cons_ne_nil m rest)]
        simp
  rw [joined (List.splitOn_ne_nil '/' s),List.intercalate_splitOn]

/-- What may follow the path in the target of a request: nothing or a query. -/
def EndsPath (rest : List Char) : Prop := ∀ c, rest.head? = some c → c = '?'

/-- A name and a slash begin a text of segments only where they are its first segment. -/
theorem name_begins {n s T U : List Char} (unslashed : '/' ∉ n) (unasked : '?' ∉ n)
    (unslashed' : '/' ∉ s) (ends : ∀ c, U.head? = some c → c = '/' ∨ c = '?')
    (begins : n ++ '/' :: T <+: s ++ U) : n = s ∧ '/' :: T <+: U := by
  induction n generalizing s with
  | nil =>
    cases s with
    | nil => exact ⟨rfl,begins⟩
    | cons d s =>
      obtain ⟨same,-⟩ := List.cons_prefix_cons.mp begins
      exact absurd (same ▸ List.mem_cons_self) unslashed'
  | cons c n ih =>
    simp only [List.mem_cons,not_or] at unslashed unasked
    cases s with
    | nil =>
      obtain ⟨rest,same⟩ := begins
      rcases ends c (by rw [List.nil_append] at same; simp [← same]) with rfl | rfl
      · exact absurd rfl unslashed.1
      · exact absurd rfl unasked.1
    | cons d s =>
      obtain ⟨rfl,later⟩ := List.cons_prefix_cons.mp begins
      simp only [List.mem_cons,not_or] at unslashed'
      obtain ⟨rfl,tail⟩ := ih unslashed.2 unasked.2 unslashed'.2 later
      exact ⟨rfl,tail⟩

theorem not_begins_slash {rest T : List Char} (ends : EndsPath rest) : ¬ '/' :: T <+: rest := by
  rintro ⟨tail,same⟩
  exact absurd (ends '/' (by rw [← same]; rfl)) (by decide)

theorem slashed_slash (names : List (List Char)) : ∃ T, slashed names ++ ['/'] = '/' :: T := by
  cases names <;> exact ⟨_,rfl⟩

/-- A text of segments begins with names and a slash just if the segments begin with the names. -/
theorem slashed_prefix_iff {names segments : List (List Char)} {rest : List Char}
    (unslashed : ∀ n ∈ names, '/' ∉ n) (unasked : ∀ n ∈ names, '?' ∉ n)
    (unslashed' : ∀ s ∈ segments, '/' ∉ s) (ends : EndsPath rest) :
    slashed names ++ ['/'] <+: slashed segments ++ rest ↔
      ∃ more, more ≠ [] ∧ segments = names ++ more := by
  constructor
  · intro begins
    induction names generalizing segments with
    | nil =>
      refine ⟨segments,?_,rfl⟩
      rintro rfl
      exact not_begins_slash ends begins
    | cons n names ih =>
      obtain ⟨first,later⟩ := List.forall_mem_cons.mp unslashed
      obtain ⟨first',later'⟩ := List.forall_mem_cons.mp unasked
      cases segments with
      | nil => exact absurd begins (not_begins_slash ends)
      | cons s segments =>
        obtain ⟨plain,others⟩ := List.forall_mem_cons.mp unslashed'
        rw [slashed_cons,slashed_cons,List.cons_append,List.cons_append,List.append_assoc,
          List.append_assoc] at begins
        have begins := (List.cons_prefix_cons.mp begins).2
        obtain ⟨T,slash⟩ := slashed_slash names
        rw [slash] at begins
        -- Where the first segment ends a slash or the end of the path stands, and no name has either.
        have next (c : Char) (head : (slashed segments ++ rest).head? = some c) : c = '/' ∨ c = '?' := by
          cases segments with
          | nil => exact .inr (ends c head)
          | cons _ _ => exact .inl (Option.some.inj head).symm
        obtain ⟨rfl,tail⟩ := name_begins first first' plain next begins
        rw [← slash] at tail
        obtain ⟨more,some,rfl⟩ := ih later later' others tail
        exact ⟨more,some,rfl⟩
  · rintro ⟨more,some,rfl⟩
    cases more with
    | nil => exact absurd rfl some
    | cons m more =>
      rw [slashed_append,slashed_cons,List.append_assoc,List.prefix_append_right_inj]
      exact ⟨m ++ slashed more ++ rest,by simp⟩

end Placard.Url
