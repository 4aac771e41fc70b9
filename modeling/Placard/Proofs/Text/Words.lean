import Placard.Extension
import Placard.Proofs.Text.Case

/-! Words of a text and what the case helpers make of them. The words of a text hold its letters and
digits in their order, and none is empty. Words in small letters are found again where they stand
between separators, so a text that has been cased once is cased to itself. -/
namespace Placard.Text

theorem flatten_wordsOfRun (mode : Mode) (word run : List Char) :
    (wordsOfRun mode word run).flatten = word.reverse ++ run := by
  fun_induction wordsOfRun mode word run with
  | case1 mode word empty => simp_all
  | case2 mode word filled => simp
  | case3 mode word c => simp
  | case4 mode word c next rest _ _ ih => simp [ih]
  | case5 mode word c next rest _ _ _ ih => simp [ih]
  | case6 mode word c next rest _ _ _ ih => simp [ih]

/-- No word is empty. A word can end before its next letter only if it holds a capital already. -/
theorem ne_nil_of_mem_wordsOfRun {mode : Mode} {word run : List Char}
    (begun : mode = .upper → word ≠ []) : ∀ w ∈ wordsOfRun mode word run, w ≠ [] := by
  fun_induction wordsOfRun mode word run with
  | case1 mode word empty => simp
  | case2 mode word filled => simpa using filled
  | case3 mode word c => simp
  | case4 mode word c next rest _ _ ih => simpa using ih (by simp)
  | case5 mode word c next rest _ _ turns ih => simpa using ⟨begun turns.1,ih (by simp)⟩
  | case6 mode word c next rest _ _ _ ih => exact ih (by simp)

/-- Without capitals a run is one word. -/
theorem wordsOfRun_uncapital {mode : Mode} {word run : List Char}
    (uncapital : ∀ c ∈ run, isUpper c = false) (filled : word.reverse ++ run ≠ []) :
    wordsOfRun mode word run = [word.reverse ++ run] := by
  fun_induction wordsOfRun mode word run with
  | case1 mode word empty => simp_all
  | case2 mode word _ => simp
  | case3 mode word c => simp
  | case4 mode word c next rest _ ends ih => simp [uncapital next] at ends
  | case5 mode word c next rest _ _ turns ih => simp [uncapital c] at turns
  | case6 mode word c next rest _ _ _ ih =>
    simpa using ih (fun d member => uncapital d (List.mem_cons_of_mem _ member)) (by simp)

theorem flatten_runs (run s : List Char) :
    (runs run s).flatten = run.reverse ++ s.filter isAlphanumeric := by
  induction s generalizing run with
  | nil => simp [runs]
  | cons c rest ih => by_cases part : isAlphanumeric c <;> simp [runs,part,ih]

theorem runs_append {w : List Char} (parts : ∀ c ∈ w, isAlphanumeric c) (run rest : List Char) :
    runs run (w ++ rest) = runs (w.reverse ++ run) rest := by
  induction w generalizing run with
  | nil => rfl
  | cons c w ih =>
    obtain ⟨part,parts⟩ := List.forall_mem_cons.mp parts
    simp [runs,part,ih parts]

theorem flatten_words (s : List Char) : (words s).flatten = s.filter isAlphanumeric := by
  have all (rs : List (List Char)) :
      (rs.flatMap (wordsOfRun .none [])).flatten = rs.flatten := by
    induction rs with
    | nil => rfl
    | cons r rs ih => simp [flatten_wordsOfRun,ih]
  rw [words,all,flatten_runs,List.reverse_nil,List.nil_append]

theorem ne_nil_of_mem_words {s : List Char} : ∀ w ∈ words s, w ≠ [] := by
  intro w member
  obtain ⟨run,-,member⟩ := List.mem_flatMap.mp member
  exact ne_nil_of_mem_wordsOfRun (by simp) w member

/-- The letters and digits of a word are some of its text. -/
theorem mem_of_mem_words {s w : List Char} (member : w ∈ words s) :
    ∀ c ∈ w, c ∈ s ∧ isAlphanumeric c := by
  intro c within
  have whole : c ∈ (words s).flatten := List.mem_flatten.mpr ⟨w,member,within⟩
  rwa [flatten_words,List.mem_filter] at whole

def IsSmall (w : List Char) : Prop := w ≠ [] ∧ ∀ c ∈ w, c.isLower ∨ c.isDigit

theorem ascii_of_small {c : Char} (small : c.isLower ∨ c.isDigit) : isAscii c := by
  simp only [Char.isLower,Char.isDigit,Bool.and_eq_true,decide_eq_true_eq,UInt32.le_iff_toNat_le,
    isAscii] at small ⊢
  have low : 'z'.val.toNat = 122 ∧ '9'.val.toNat = 57 := by decide
  have here : c.toNat = c.val.toNat := rfl
  omega

/-- What holds of all characters of ASCII can be tried out. -/
theorem of_ascii {c : Char} (ascii : isAscii c) {P : Char → Prop} [DecidablePred P]
    (all : ∀ n < 128, P (Char.ofNat n)) : P c := by
  have bound : c.toNat < 128 := by simpa [isAscii] using ascii
  simpa using all c.toNat bound

theorem isAlphanumeric_of_small {c : Char} (small : c.isLower ∨ c.isDigit) : isAlphanumeric c :=
  of_ascii (ascii_of_small small) (P := fun c => c.isLower ∨ c.isDigit → isAlphanumeric c)
    (by decide) small

theorem isUpper_of_small {c : Char} (small : c.isLower ∨ c.isDigit) : isUpper c = false :=
  of_ascii (ascii_of_small small) (P := fun c => c.isLower ∨ c.isDigit → isUpper c = false)
    (by decide) small

theorem toLower_of_small {c : Char} (small : c.isLower ∨ c.isDigit) : c.toLower = c :=
  of_ascii (ascii_of_small small) (P := fun c => c.isLower ∨ c.isDigit → c.toLower = c)
    (by decide) small

theorem small_toLower {c : Char} (ascii : isAscii c) (part : isAlphanumeric c) :
    c.toLower.isLower ∨ c.toLower.isDigit :=
  of_ascii ascii (P := fun c => isAlphanumeric c → c.toLower.isLower ∨ c.toLower.isDigit)
    (by decide) part

theorem IsSmall.parts {w : List Char} (small : IsSmall w) : ∀ c ∈ w, isAlphanumeric c :=
  fun c member => isAlphanumeric_of_small (small.2 c member)

/-- In ASCII a word has one small letter for each of its letters. -/
theorem lowerWord_ascii {w : List Char} (ascii : ∀ c ∈ w, isAscii c) :
    lowerWord w = w.map Char.toLower := by
  fun_induction lowerWord w with
  | case1 => rfl
  | case2 => simp [capitalSigma,isAscii] at ascii
  | case3 c other =>
    have here : isAscii c := ascii c List.mem_cons_self
    simp [lowerChar,here]
  | case4 c rest filled ih =>
    obtain ⟨here,later⟩ := List.forall_mem_cons.mp ascii
    simp [lowerChar,here,ih later]

theorem lowerWord_small {w : List Char} (small : IsSmall w) : lowerWord w = w := by
  rw [lowerWord_ascii fun c member => ascii_of_small (small.2 c member)]
  exact List.map_congr_left (fun c member => toLower_of_small (small.2 c member)) |>.trans w.map_id

/-- A small word alone is the only one. -/
theorem words_small {w : List Char} (small : IsSmall w) : words w = [w] := by
  have run : runs [] w = [w] := by
    simpa [runs] using runs_append small.parts [] []
  have word : wordsOfRun .none [] w = [w] :=
    wordsOfRun_uncapital (fun c member => isUpper_of_small (small.2 c member)) small.1
  rw [words,run,List.flatMap_singleton,word]

theorem words_small_cons {w : List Char} (small : IsSmall w) {separator : Char}
    (separates : isAlphanumeric separator = false) (rest : List Char) :
    words (w ++ separator :: rest) = w :: words rest := by
  have run : runs [] (w ++ separator :: rest) = w :: runs [] rest := by
    simpa [runs,separates] using runs_append small.parts [] (separator :: rest)
  have word : wordsOfRun .none [] w = [w] :=
    wordsOfRun_uncapital (fun c member => isUpper_of_small (small.2 c member)) small.1
  rw [words,run,List.flatMap_cons,word]
  rfl

/-- Small words are found again where they are joined by a separator. -/
theorem words_intercalate {ws : List (List Char)} (small : ∀ w ∈ ws, IsSmall w) {separator : Char}
    (separates : isAlphanumeric separator = false) : words ([separator].intercalate ws) = ws := by
  induction ws with
  | nil => rfl
  | cons w ws ih =>
    obtain ⟨first,later⟩ := List.forall_mem_cons.mp small
    cases ws with
    | nil => simpa using words_small first
    | cons v ws =>
      rw [List.intercalate_cons_cons,List.append_assoc,List.singleton_append,
        words_small_cons first separates,ih later]

def smallWords (s : List Char) : List (List Char) := (words s).map lowerWord

theorem joinWords_eq (separator : Char) (s : List Char) :
    joinWords separator s = [separator].intercalate (smallWords s) := rfl

theorem lowerWord_of_mem {s w : List Char} (ascii : ∀ c ∈ s, isAscii c) (member : w ∈ words s) :
    lowerWord w = w.map Char.toLower :=
  lowerWord_ascii fun c within => ascii c (mem_of_mem_words member c within).1

theorem isSmall_smallWords {s : List Char} (ascii : ∀ c ∈ s, isAscii c) :
    ∀ w ∈ smallWords s, IsSmall w := by
  refine List.forall_mem_map.mpr fun w member => ?_
  rw [lowerWord_of_mem ascii member]
  refine ⟨by simpa using ne_nil_of_mem_words w member,List.forall_mem_map.mpr fun c within => ?_⟩
  obtain ⟨there,part⟩ := mem_of_mem_words member c within
  exact small_toLower (ascii c there) part

theorem flatten_smallWords {s : List Char} (ascii : ∀ c ∈ s, isAscii c) :
    (smallWords s).flatten = (s.filter Char.isAlphanum).map Char.toLower := by
  have words : smallWords s = (words s).map (List.map Char.toLower) :=
    List.map_congr_left fun w member => lowerWord_of_mem ascii member
  have parts : s.filter isAlphanumeric = s.filter Char.isAlphanum :=
    List.filter_congr fun c member => by simp [isAlphanumeric,ascii c member]
  rw [words,← List.map_flatten,flatten_words,parts]

/-- What is joined by a separator is joined by another one if the first one is replaced. -/
theorem map_intercalate {separator : Char} {ws : List (List Char)} (apart : ∀ w ∈ ws, separator ∉ w)
    (other : Char) :
    ([separator].intercalate ws).map (fun c => if c = separator then other else c) =
      [other].intercalate ws := by
  have word {w : List Char} (apart : separator ∉ w) :
      w.map (fun c => if c = separator then other else c) = w := by
    refine (List.map_congr_left fun c member => ?_).trans w.map_id
    exact if_neg fun (same : c = separator) => apart (same ▸ member)
  induction ws with
  | nil => rfl
  | cons w ws ih =>
    obtain ⟨first,later⟩ := List.forall_mem_cons.mp apart
    cases ws with
    | nil => simpa using word first
    | cons v ws =>
      rw [List.intercalate_cons_cons,List.map_append,List.map_append,ih later,word first,
        List.intercalate_cons_cons]
      simp

theorem filter_intercalate {separator : Char} {ws : List (List Char)}
    (apart : ∀ w ∈ ws, separator ∉ w) :
    ([separator].intercalate ws).filter (· ≠ separator) = ws.flatten := by
  have word {w : List Char} (apart : separator ∉ w) : w.filter (· ≠ separator) = w := by
    refine List.filter_eq_self.mpr fun c member => ?_
    simpa using fun (same : c = separator) => apart (same ▸ member)
  induction ws with
  | nil => rfl
  | cons w ws ih =>
    obtain ⟨first,later⟩ := List.forall_mem_cons.mp apart
    cases ws with
    | nil => simpa using word first
    | cons v ws =>
      rw [List.intercalate_cons_cons,List.filter_append,List.filter_append,ih later,word first,
        List.flatten_cons]
      simp

/-- A text that has been cased, with whatever separator, has the words that it was given. -/
theorem joinWords_joinWords {s : List Char} (ascii : ∀ c ∈ s, isAscii c) {separator : Char}
    (separates : isAlphanumeric separator = false) (other : Char) :
    joinWords other (joinWords separator s) = joinWords other s := by
  have small := isSmall_smallWords ascii
  have same : smallWords ([separator].intercalate (smallWords s)) = smallWords s := by
    rw [smallWords,words_intercalate small separates]
    exact (List.map_congr_left fun w member => lowerWord_small (small w member)).trans (List.map_id _)
  rw [joinWords_eq,joinWords_eq,joinWords_eq,same]

end Placard.Text

namespace Placard.Helper
open Text (isAscii IsSmall)

/-- The case helpers on a text in ASCII. What the one for hyphens makes of it is what the one for
underscores makes of it, with every underscore replaced. This is a row of words of small letters and
digits, none of them empty, with one underscore between any two; without the underscores, the letters
and digits of the text are left, in their order and in lower case. What either has made of a text is
cased to the same again. -/
theorem cased_ascii {s : String} (ascii : ∀ c ∈ s.toList, isAscii c) (arguments : Arguments) :
    ∃ snake kebab : Helper, builtin.lookup "snake_case" = some snake ∧
      builtin.lookup "kebab_case" = some kebab ∧
      ∃ t u : String, snake (.str s) arguments = .ok (.str t) ∧
        kebab (.str s) arguments = .ok (.str u) ∧
        u.toList = t.toList.map (fun c => if c = '_' then '-' else c) ∧
        (∃ ws, (∀ w ∈ ws, IsSmall w) ∧ t.toList = ['_'].intercalate ws) ∧
        t.toList.filter (· ≠ '_') = (s.toList.filter Char.isAlphanum).map Char.toLower ∧
        snake (.str t) arguments = .ok (.str t) ∧ snake (.str u) arguments = .ok (.str t) := by
  have small := Text.isSmall_smallWords ascii
  have apart : ∀ w ∈ Text.smallWords s.toList, '_' ∉ w := by
    intro w member within
    exact absurd ((small w member).parts _ within) (by decide)
  have again {separator : Char} (separates : Text.isAlphanumeric separator = false) :
      Text.snakeCased (String.ofList (Text.joinWords separator s.toList)) = Text.snakeCased s := by
    rw [Text.snakeCased,String.toList_ofList,Text.joinWords_joinWords ascii separates]
    rfl
  refine ⟨_,_,rfl,rfl,Text.snakeCased s,Text.kebabCased s,rfl,rfl,?_,
    ⟨Text.smallWords s.toList,small,?_⟩,?_,?_,?_⟩
  · rw [Text.snakeCased,Text.kebabCased,String.toList_ofList,String.toList_ofList,
      Text.joinWords_eq,Text.joinWords_eq,Text.map_intercalate apart]
  · rw [Text.snakeCased,String.toList_ofList,Text.joinWords_eq]
  · rw [Text.snakeCased,String.toList_ofList,Text.joinWords_eq,Text.filter_intercalate apart,
      Text.flatten_smallWords ascii]
  · simp only [onText,Text.snakeCased] at again ⊢
    rw [again (by decide)]
  · simp only [onText]
    exact congrArg (fun t => Except.ok (Json.str t)) (again (by decide))

/-- Capitals in a row, digits, marks at both ends and two in a row. -/
theorem snake_case_resplit_at_hyphens :
    let s := "_HTTPRequest2Go!!v10B_"
    (∀ c ∈ s.toList, isAscii c) ∧ ∃ snake : Helper, builtin.lookup "snake_case" = some snake ∧
      snake (.str s) [] = .ok (.str "http_request2_go_v10_b") ∧
      snake (.str "http-request2-go-v10-b") [] = .ok (.str "http_request2_go_v10_b") := by
  intro s
  have ascii : ∀ c ∈ s.toList, isAscii c := Text.forall_of_all (by decide)
  obtain ⟨snake,kebab,named,-,t,u,first,-,replaced,-,-,-,again⟩ := cased_ascii ascii []
  cases named
  have text : Text.snakeCased s = "http_request2_go_v10_b" := by decide +kernel
  have underscored : t = "http_request2_go_v10_b" := by
    simpa [onText,text,eq_comm] using first
  have hyphened : u = "http-request2-go-v10-b" := by
    rw [underscored] at replaced
    exact String.ext (replaced.trans (by decide))
  rw [underscored] at first again
  rw [hyphened] at again
  exact ⟨ascii,_,rfl,first,again⟩

end Placard.Helper
