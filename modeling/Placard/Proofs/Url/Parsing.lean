import Placard.Proofs.Result
import Placard.Proofs.Url.Resolving
import Placard.Url.Basic

/-! Reading URLs that name a machine and a folder on it, whatever text follows. What the text says of
the path, it says below that folder. -/
namespace Placard.Url

def cleanedEnd (s : List Char) : List Char :=
  ((s.reverse.dropWhile isControlOrSpace).reverse).filter fun c => c ≠ '\t' && c ≠ '\n' && c ≠ '\r'

def endPath (s : List Char) : List Char := (cutFirst '?' (cutFirst '#' (cleanedEnd s)).1).1

def endQuery (s : List Char) : Option (List Char) := (cutFirst '?' (cutFirst '#' (cleanedEnd s)).1).2

def endFragment (s : List Char) : Option (List Char) := (cutFirst '#' (cleanedEnd s)).2

def endSegments (s : List Char) : List (List Char) :=
  ((endPath s).map fun c => if c = '\\' then '/' else c).splitOn '/'

section Graphic

variable {front : List Char} (graphic : ∀ c ∈ front, isControlOrSpace c = false)
include graphic

theorem dropWhile_graphic : front.dropWhile isControlOrSpace = front := by
  cases front with
  | nil => rfl
  | cons c front => rw [List.dropWhile_cons,if_neg (by simp [graphic c])]

theorem filter_graphic : front.filter (fun c => c ≠ '\t' && c ≠ '\n' && c ≠ '\r') = front := by
  refine List.filter_eq_self.mpr fun c member => ?_
  have other (d : Char) (control : isControlOrSpace d) : c ≠ d := by
    rintro rfl
    simp [graphic c member] at control
  simp [other '\t' (by decide),other '\n' (by decide),other '\r' (by decide)]

theorem reverse_graphic : ∀ c ∈ front.reverse, isControlOrSpace c = false := fun c member =>
  graphic c (List.mem_reverse.mp member)

theorem cleaned_append (some : front ≠ []) (tail : List Char) :
    cleaned (front ++ tail) = front ++ cleanedEnd tail := by
  have first : (front ++ tail).dropWhile isControlOrSpace = front ++ tail := by
    cases front with
    | nil => exact absurd rfl some
    | cons c front => rw [List.cons_append,List.dropWhile_cons,if_neg (by simp [graphic c])]
  have inner : (front ++ tail).reverse.dropWhile isControlOrSpace =
      tail.reverse.dropWhile isControlOrSpace ++ front.reverse := by
    rw [List.reverse_append,List.dropWhile_append]
    split
    next none => rw [dropWhile_graphic (reverse_graphic graphic),List.isEmpty_iff.mp none,
      List.nil_append]
    next => rfl
  rw [cleaned]
  simp only [first,inner]
  rw [List.reverse_append,List.reverse_reverse,List.filter_append,filter_graphic graphic,cleanedEnd]

end Graphic

theorem cutFirst_append {mark : Char} {front : List Char} (unmarked : mark ∉ front)
    (tail : List Char) :
    cutFirst mark (front ++ tail) = (front ++ (cutFirst mark tail).1,(cutFirst mark tail).2) := by
  have others : ∀ c ∈ front, decide (c ≠ mark) = true := by
    intro c member
    simp only [decide_eq_true_eq]
    rintro rfl
    exact unmarked member
  rw [cutFirst,cutFirst,List.dropWhile_append_of_pos others,List.takeWhile_append_of_pos others]
  cases tail.dropWhile (· ≠ mark) <;> rfl

theorem cutFirst_of_not_mem {mark : Char} {s : List Char} (unmarked : mark ∉ s) :
    cutFirst mark s = (s,none) := by
  rw [← List.append_nil s,cutFirst_append unmarked]
  rfl

/-- A text at the end of a URL without controls, backslashes and the marks of queries and fragments, and
without a space at its own end, is its path and nothing else. -/
theorem end_of_clear {s : List Char} (chars : ∀ c ∈ s, 0x20 ≤ c.toNat ∧ c ∉ ['\\','?','#'])
    (last : s.getLast? ≠ some ' ') : endSegments s = s.splitOn '/' ∧ endQuery s = none := by
  have apart {mark : Char} (special : mark ∈ ['\\','?','#']) : mark ∉ s := fun member =>
    (chars mark member).2 special
  have whole : s.reverse.dropWhile isControlOrSpace = s.reverse := by
    cases back : s.reverse with
    | nil => rfl
    | cons c front =>
      have final : s.getLast? = some c := by rw [List.getLast?_eq_head?_reverse,back]; rfl
      have low := (chars c (List.mem_of_getLast? final)).1
      have other : c.toNat ≠ 0x20 := by
        intro space
        refine last (final.trans (congrArg some ?_))
        rw [← Char.ofNat_toNat c,space]
      rw [List.dropWhile_cons,if_neg]
      simp only [isControlOrSpace,decide_eq_true_eq]
      omega
  have kept : s.filter (fun c => c ≠ '\t' && c ≠ '\n' && c ≠ '\r') = s := by
    refine List.filter_eq_self.mpr fun c member => ?_
    have low := (chars c member).1
    have visible (d : Char) (control : d.toNat < 0x20) : c ≠ d := by
      rintro rfl
      omega
    simp [visible '\t' (by decide),visible '\n' (by decide),visible '\r' (by decide)]
  have cut : cutFirst '?' (cutFirst '#' (cleanedEnd s)).1 = (s,none) := by
    rw [cleanedEnd,whole,List.reverse_reverse,kept,cutFirst_of_not_mem (apart (by simp)),
      cutFirst_of_not_mem (apart (by simp))]
  have forward : s.map (fun c => if c = '\\' then '/' else c) = s := by
    refine (List.map_congr_left fun c member => if_neg ?_).trans (List.map_id' _)
    rintro rfl
    exact apart (by simp) member
  exact ⟨by rw [endSegments,endPath,cut,forward],by rw [endQuery,cut]⟩

def webScheme (secure : Bool) : List Char := if secure then "https".toList else "http".toList

def isHostChar (c : Char) : Bool :=
  !isControlOrSpace c && c ≠ '/' && c ≠ '\\' && c ≠ '?' && c ≠ '#'

theorem host_ne_nil {usual : Option Nat} {host rest : List Char} {authority : Authority}
    (read : Authority.read true usual host = .ok (authority,rest)) : host ≠ [] := by
  rintro rfl
  cases read

theorem readMachine_ne_blank {s : List Char} {host : Host} (read : Host.readMachine s = .ok host) :
    host ≠ .blank := by
  rintro rfl
  unfold Host.readMachine at read
  split at read
  · unfold Host.readBracketed at read
    split at read
    · split at read <;> cases read
    · cases read
  · split at read
    · cases read
    next filled _ =>
      split at read
      · split at read <;> cases read
      · cases read
        exact filled rfl
    · cases read

theorem host_ne_blank {usual : Option Nat} {s rest : List Char} {authority : Authority}
    (read : Authority.read true usual s = .ok (authority,rest)) : authority.host ≠ .blank := by
  unfold Authority.read at read
  simp only [Bool.not_true,Bool.false_and,Bool.false_eq_true,if_false,if_true] at read
  split at read
  · cases read
  · obtain ⟨host,machine,read⟩ := bind_eq_ok_iff.mp read
    obtain ⟨_,-,⟨⟩⟩ := bind_eq_ok_iff.mp read
    exact readMachine_ne_blank machine

theorem not_mem_of_isName {segment : List Char} (name : IsName segment) {c : Char}
    (other : isPlain c = false) : c ∉ segment := fun member =>
  ne_of_isPlain (name.plain c member) other rfl

theorem mem_slashed {names : List (List Char)} (all : ∀ n ∈ names, IsName n) :
    ∀ c ∈ slashed names, c = '/' ∨ isPlain c := by
  intro c member
  obtain ⟨n,within,member⟩ := List.mem_flatMap.mp member
  rcases List.mem_cons.mp member with slash | member
  · exact .inl slash
  · exact .inr ((all n within).plain c member)

theorem segments_web (secure : Bool) {folder : List (List Char)} (some : folder ≠ [])
    (names : ∀ n ∈ folder, IsName n) (path : List Char) :
    segments (webScheme secure) (slashed folder ++ '/' :: path) =
      resolve false [] (folder ++
        (path.map fun c => if c = '\\' then '/' else c).splitOn '/') := by
  have special : isSpecial (webScheme secure) = true := by cases secure <;> decide
  have other : isFile (webScheme secure) = false := by cases secure <;> decide
  have plain : (slashed folder).map (fun c => if c = '\\' then '/' else c) = slashed folder := by
    refine (List.map_congr_left fun c member => if_neg ?_).trans (List.map_id' _)
    rcases mem_slashed names c member with rfl | plain
    · decide
    · exact ne_of_isPlain plain (by decide)
  cases folder with
  | nil => exact absurd rfl some
  | cons n folder =>
    obtain ⟨first,later⟩ := List.forall_mem_cons.mp names
    have unslashed : ∀ m ∈ folder, '/' ∉ m := fun m member =>
      not_mem_of_isName (later m member) (by decide)
    rw [segments]
    simp only [special,other,if_true,List.map_append,List.map_cons,plain]
    rw [slashed_cons,List.cons_append]
    simp only [List.append_assoc]
    rw [if_neg (by decide),splitOn_slashed unslashed n (not_mem_of_isName first (by decide))]

/-- A folder on a machine: what it takes to read it from a URL. -/
structure MachineFolder where
  secure : Bool
  host : List Char
  authority : Authority
  folder : List (List Char)
  whole : ∀ c ∈ host, isHostChar c
  named : Authority.read true (usualPort (webScheme secure)) host = .ok (authority,[])
  names : ∀ n ∈ folder, IsName n
  some : folder ≠ []

namespace MachineFolder

variable (m : MachineFolder)

def scheme : List Char := webScheme m.secure

def place : List Char := '/' :: '/' :: (m.host ++ (slashed m.folder ++ ['/']))

def text : List Char := m.scheme ++ ':' :: m.place

def url (tail : List Char) : Url where
  scheme := m.scheme
  authority := Option.some m.authority
  path := .steps ((Walk.start.along (endSegments tail)).place m.folder)
  query := (endQuery tail).map (encode keptInSpecialQuery)
  fragment := (endFragment tail).map (encode keptInFragment)

theorem special : isSpecial m.scheme = true := by
  rw [scheme]
  cases m.secure <;> decide

/-- No character of the folder's URL is cut off or begins a query or a fragment. -/
theorem text_char : ∀ c ∈ m.text, isControlOrSpace c = false ∧ c ≠ '?' ∧ c ≠ '#' := by
  have scheme : ∀ c ∈ m.scheme, isControlOrSpace c = false ∧ c ≠ '?' ∧ c ≠ '#' := by
    rw [MachineFolder.scheme]
    cases m.secure <;> exact Text.forall_of_all (by decide)
  intro c member
  simp only [text,place,List.mem_append,List.mem_cons,List.not_mem_nil,or_false] at member
  rcases member with first | rfl | rfl | rfl | host | slashed | rfl
  · exact scheme c first
  · decide
  · decide
  · decide
  · have kept := m.whole c host
    simp only [isHostChar,Bool.and_eq_true,Bool.not_eq_true',decide_eq_true_eq] at kept
    exact ⟨kept.1.1.1.1,kept.1.2,kept.2⟩
  · rcases mem_slashed m.names c slashed with rfl | plain
    · decide
    · have low := (range_of_isPlain plain).1
      exact ⟨by simpa [isControlOrSpace] using low,ne_of_isPlain plain (by decide),
        ne_of_isPlain plain (by decide)⟩
  · decide

theorem slash_of_host {c : Char} (member : c ∈ m.host) : isSlash true c = false := by
  have kept := m.whole c member
  simp only [isHostChar,Bool.and_eq_true,decide_eq_true_eq] at kept
  simp [isSlash,kept.1.1.1.2,kept.1.1.2]

theorem readFront_place (path : List Char) :
    readFront m.scheme (m.place ++ path) = .ok (Option.some m.authority,.steps
      (resolve false m.folder ((path.map fun c => if c = '\\' then '/' else c).splitOn '/'))) := by
  have other : isFile m.scheme = false := by rw [scheme]; cases m.secure <;> decide
  have outside : ∀ c ∈ m.host, (!isSlash true c) = true := fun c member => by
    rw [m.slash_of_host member]
    rfl
  have begins : (m.host ++ (slashed m.folder ++ '/' :: path)).dropWhile (isSlash true) =
      m.host ++ (slashed m.folder ++ '/' :: path) := by
    cases host : m.host with
    | nil => exact absurd host (host_ne_nil m.named)
    | cons c _ =>
      rw [List.cons_append,List.dropWhile_cons,if_neg]
      simp [m.slash_of_host (host ▸ List.mem_cons_self)]
  have front : (slashed m.folder ++ '/' :: path).takeWhile (fun c => !isSlash true c) = [] ∧
      (slashed m.folder ++ '/' :: path).dropWhile (fun c => !isSlash true c) =
        slashed m.folder ++ '/' :: path := by
    cases m.folder <;> exact ⟨rfl,rfl⟩
  have slashes : (m.place ++ path).dropWhile (isSlash true) =
      m.host ++ (slashed m.folder ++ '/' :: path) := by
    rw [← begins]
    simp [place,isSlash]
  unfold readFront
  rw [other,m.special]
  simp only [Bool.false_eq_true,if_false,if_true,slashes]
  have named : Authority.read true (usualPort m.scheme) m.host = .ok (m.authority,[]) := m.named
  have steps := segments_web m.secure m.some m.names path
  rw [← scheme,resolve_names m.names [] (List.splitOn_ne_nil _ _),List.nil_append] at steps
  rw [readPlace]
  simp only [m.special,List.takeWhile_append_of_pos outside,List.dropWhile_append_of_pos outside,
    front.1,front.2,List.append_nil,named]
  exact congrArg (fun s => Except.ok (Option.some m.authority,UrlPath.steps s)) steps

theorem cutScheme_web (secure : Bool) (rest : List Char) :
    cutScheme (webScheme secure ++ ':' :: rest) = Option.some (webScheme secure,rest) := by
  cases secure <;> rfl

/-- Whatever stands at the end of the URL leads on from the folder. -/
theorem parse_text (tail : List Char) :
    parse (String.ofList (m.text ++ tail)) = .ok (m.url tail) := by
  have chars := m.text_char
  have within : ∀ c ∈ m.place, c ∈ m.text := fun c member =>
    List.mem_append_right _ (List.mem_cons_of_mem _ member)
  have fragment : '#' ∉ m.place := fun member => (chars '#' (within _ member)).2.2 rfl
  have query : '?' ∉ m.place := fun member => (chars '?' (within _ member)).2.1 rfl
  have scheme : cutScheme (m.text ++ cleanedEnd tail) =
      Option.some (m.scheme,m.place ++ cleanedEnd tail) := by
    rw [text,List.append_assoc]
    exact cutScheme_web m.secure _
  have start : resolve false m.folder (endSegments tail) =
      (Walk.start.along (endSegments tail)).place m.folder := by
    rw [← Walk.resolve_place m.names]
    simp [Walk.place,Walk.start]
  rw [parse,String.toList_ofList,cleaned_append (fun c member => (chars c member).1) (by simp [text]),
    scheme]
  simp only [cutFirst_append fragment,cutFirst_append query,m.readFront_place,m.special,if_true]
  rw [url,← start]
  rfl

end MachineFolder
end Placard.Url
