import Placard.Proofs.Result
import Placard.Proofs.Url.Resolving
import Placard.Source.Files

/-! Reading a tree of files from a root. A walk by names finds just the file that the tree has under
them, and a root that leads to a folder is where such a walk starts. -/
namespace Placard

def NamePath (path : String) : Prop := ∀ n ∈ path.toList.splitOn '/', Url.IsName n ∧ n ≠ []

theorem mem_segment_of_mem {mark c : Char} {s : List Char} (member : c ∈ s) (other : c ≠ mark) :
    ∃ n ∈ s.splitOn mark, c ∈ n := by
  induction s with
  | nil => exact absurd member List.not_mem_nil
  | cons d rest ih =>
    obtain ⟨first,others,split⟩ := List.exists_cons_of_ne_nil (List.splitOn_ne_nil mark rest)
    simp only [split,List.mem_cons,exists_eq_or_imp] at ih
    rw [List.splitOn_cons_eq_if_modifyHead,split]
    by_cases same : d = mark
    · rcases List.mem_cons.mp member with rfl | later
      · exact absurd same other
      · simpa [same] using ih later
    · simp only [beq_iff_eq,same,if_false,List.modifyHead_cons,List.mem_cons,exists_eq_or_imp]
      rcases List.mem_cons.mp member with rfl | later
      · exact .inl (.inl rfl)
      · exact (ih later).imp_left .inr

theorem namePath_append {front back : String} (plain : NamePath front) (plain' : NamePath back) :
    NamePath (front ++ "/" ++ back) := by
  intro n member
  simp only [String.toList_append] at member
  rw [List.append_assoc,show "/".toList ++ back.toList = '/' :: back.toList from rfl,
    List.splitOn_append_cons_self] at member
  exact (List.mem_append.mp member).elim (plain n) (plain' n)

namespace NamePath

variable {path : String} (plain : NamePath path)
include plain

theorem toList_ne_nil : path.toList ≠ [] := by
  intro none
  have first : [] ∈ path.toList.splitOn '/' := by rw [none]; exact List.mem_singleton_self _
  exact (plain [] first).2 rfl

theorem head_ne_slash : path.toList.head? ≠ some '/' :=
  Url.head_ne_slash_of_filled fun n member => (plain n member).2

/-- It has no slashes at its front to be taken off. -/
theorem withoutLeadingSlashes_toList : withoutLeadingSlashes path.toList = path.toList :=
  withoutLeadingSlashes_of_head plain.head_ne_slash

theorem char {c : Char} (member : c ∈ path.toList) : c = '/' ∨ Url.isPlain c := by
  by_cases slash : c = '/'
  · exact .inl slash
  · obtain ⟨n,segment,within⟩ := mem_segment_of_mem member slash
    exact .inr ((plain n segment).1.plain c within)

theorem not_mem {mark : Char} (other : mark ≠ '/') (special : Url.isPlain mark = false) :
    mark ∉ path.toList := by
  intro member
  rcases plain.char member with slash | marked
  · exact other slash
  · rw [special] at marked
    cases marked

theorem step {step : String} (member : step ∈ Files.steps path) :
    step ≠ "" ∧ step ≠ "." ∧ step ≠ ".." := by
  obtain ⟨n,segment,rfl⟩ := List.mem_map.mp member
  obtain ⟨name,some⟩ := plain n segment
  have same {s : String} (equal : String.ofList n = s) : n = s.toList := by
    rw [← equal,String.toList_ofList]
  exact ⟨fun empty => some (same empty),fun here => name.here (same here),
    fun above => name.above (same above)⟩

end NamePath

/-- A path is told by its steps. -/
theorem Files.path_of_steps {path : String} {names : List String} (steps : Files.steps path = names) :
    path = String.ofList (['/'].intercalate (names.map String.toList)) := by
  have segments : names.map String.toList = path.toList.splitOn '/' := by
    rw [← steps,Files.steps,List.map_map]
    simp [Function.comp_def]
  rw [segments,List.intercalate_splitOn,String.ofList_toList]

namespace Files

variable {files : Files} {names folder : List String}

def folder? (files : Files) (names : List String) : List String → Option (List String)
  | [] => some names
  | step :: rest =>
    if step = "" ∨ step = "." then files.folder? names rest
    else if step = ".." then files.folder? (above names) rest
    else if step.utf8ByteSize > longestName then none
    else
      match files.node? (names ++ [step]) with
      | some .folder => files.folder? (names ++ [step]) rest
      | _ => none

theorem folder?_append (front back : List String) :
    files.folder? names (front ++ back) =
      (files.folder? names front).bind fun folder => files.folder? folder back := by
  induction front generalizing names with
  | nil => rfl
  | cons step rest ih =>
    simp only [List.cons_append,folder?,ih]
    repeat' split
    all_goals rfl

/-- Steps that lead to a folder are walked to it. -/
theorem walk_append_of_folder? {front : List String} (leads : files.folder? names front = some folder)
    (back : List String) : files.walk names .folder (front ++ back) = files.walk folder .folder back := by
  induction front generalizing names with
  | nil =>
    cases leads
    rfl
  | cons step rest ih =>
    rw [folder?] at leads
    rw [List.cons_append,walk]
    split at leads
    next stays => rw [if_pos stays,ih leads]
    next moves =>
      rw [if_neg moves]
      split at leads
      next up => rw [if_pos up,ih leads]
      next down =>
        rw [if_neg down]
        split at leads
        next => cases leads
        next short =>
          rw [if_neg short]
          split at leads
          next below => simp only [below,ih leads]
          next => cases leads

/-- Files as a file system holds them: nothing stands below a file, and no name is too long. -/
structure IsTree (files : Files) : Prop where
  apart : ∀ e ∈ files.entries, e.2.isSome → ∀ e' ∈ files.entries, e.1 <+: e'.1 → e.1 = e'.1
  short : ∀ e ∈ files.entries, ∀ n ∈ e.1, n.utf8ByteSize ≤ longestName

theorem mem_of_lookup {node : Option ByteArray} (found : files.entries.lookup names = some node) :
    (names,node) ∈ files.entries := by
  obtain ⟨before,after,split,-⟩ := List.lookup_eq_some_iff.mp found
  simp [split]

theorem node?_file_iff {contents : ByteArray} :
    files.node? names = some (.file contents) ↔
      files.entries.lookup names = some (some contents) := by
  unfold node?
  rcases files.entries.lookup names with _ | _ | other <;> simp

/-- Above a file of a tree there are folders. -/
theorem IsTree.node?_folder (tree : files.IsTree) {front back : List String} {contents : ByteArray}
    (found : files.entries.lookup (front ++ back) = some (some contents)) (more : back ≠ []) :
    files.node? front = some .folder := by
  have member := mem_of_lookup found
  have leads : files.entries.any (fun e => front.isPrefixOf e.1) :=
    List.any_eq_true.mpr ⟨_,member,by simp⟩
  unfold node?
  rcases here : files.entries.lookup front with _ | _ | other
  · simp [leads]
  · rfl
  · have same := tree.apart _ (mem_of_lookup here) rfl _ member (List.prefix_append front back)
    exact absurd (List.self_eq_append_right.mp same) more

theorem walk_name_iff {step : String} (filled : step ≠ "") (moves : step ≠ ".") (down : step ≠ "..")
    {rest : List String} {node : FileNode} :
    files.walk names .folder (step :: rest) = .ok node ↔ step.utf8ByteSize ≤ longestName ∧
      ∃ next, files.node? (names ++ [step]) = some next ∧
        files.walk (names ++ [step]) next rest = .ok node := by
  rw [walk]
  simp only [filled,moves,down,or_self,if_false]
  by_cases short : step.utf8ByteSize ≤ longestName
  · cases there : files.node? (names ++ [step]) <;> simp [short,Nat.not_lt.mpr short]
  · simp [short,Nat.lt_of_not_ge short]

/-- A walk by names finds a file just if the tree has it under them. -/
theorem IsTree.walk_file_iff (tree : files.IsTree) {steps : List String} (some : steps ≠ [])
    (onward : ∀ step ∈ steps, step ≠ "" ∧ step ≠ "." ∧ step ≠ "..") {contents : ByteArray} :
    files.walk names .folder steps = .ok (.file contents) ↔
      files.entries.lookup (names ++ steps) = Option.some (Option.some contents) := by
  induction steps generalizing names with
  | nil => exact absurd rfl some
  | cons step rest ih =>
    obtain ⟨⟨filled,moves,down⟩,onward⟩ := List.forall_mem_cons.mp onward
    have split : names ++ step :: rest = (names ++ [step]) ++ rest := by simp
    rw [walk_name_iff filled moves down,split]
    cases rest with
    | nil =>
      rw [List.append_nil,← node?_file_iff]
      constructor
      · rintro ⟨-,next,there,walked⟩
        rw [there,Except.ok.inj walked]
      · intro there
        have found := node?_file_iff.mp there
        exact ⟨tree.short _ (mem_of_lookup found) step (by simp),_,there,rfl⟩
    | cons next rest =>
      have more : next :: rest ≠ [] := List.cons_ne_nil _ _
      constructor
      · rintro ⟨-,_ | _,-,walked⟩
        · exact (ih more onward).mp walked
        · cases walked
      · intro found
        exact ⟨tree.short _ (mem_of_lookup found) step (by simp),_,tree.node?_folder found more,
          (ih more onward).mpr found⟩

end Files

/-- A root, from the folder at hand, that leads to a folder of a tree, all of which is in its reach. -/
structure Rooted (files : Files) (root : String) (folder : List String) : Prop where
  tree : files.IsTree
  relative : root.toList.head? ≠ some '/'
  whole : '\x00' ∉ root.toList
  leads : files.folder? [] (Files.steps root) = some folder
  near : ∀ path, NamePath path →
    ∀ contents, files.entries.lookup (folder ++ Files.steps path) = some (some contents) →
      (Source.below root path).utf8ByteSize ≤ Files.longestPath

def Files.textBelow? (files : Files) (folder : List String) (path : String) : Option String :=
  match files.entries.lookup (folder ++ steps path) with
  | some (some contents) => String.fromUTF8? contents
  | _ => none

theorem Files.textBelow?_eq_some_iff {files : Files} {folder : List String} {path text : String} :
    files.textBelow? folder path = some text ↔
      ∃ contents, files.entries.lookup (folder ++ steps path) = some (some contents) ∧
        String.fromUTF8? contents = some text := by
  unfold textBelow?
  rcases files.entries.lookup (folder ++ steps path) with _ | _ | contents <;> simp

theorem Files.text_eq_ok_iff {files : Files} {path text : String} :
    files.text path = .ok text ↔
      ∃ contents, files.find path = .ok (.file contents) ∧
        String.fromUTF8? contents = some text := by
  rw [Files.text,bytes]
  rcases files.find path with _ | _ | contents
  · simp [Except.bind]
  · simp [Except.bind]
  · cases spelled : String.fromUTF8? contents <;> simp [Except.bind,decoded,spelled]

namespace Rooted

variable {files : Files} {root path : String} {folder : List String}

theorem below_cases (root : String) (plain : NamePath path) :
    (∃ front, root.toList = front ++ ['/'] ∧
      (Source.below root path).toList = front ++ '/' :: path.toList) ∨
    root = "" ∧ Source.below root path = path ∨
    root.toList ≠ [] ∧ (Source.below root path).toList = root.toList ++ '/' :: path.toList := by
  unfold Source.below
  rw [plain.withoutLeadingSlashes_toList,String.ofList_toList]
  cases last : root.toList.getLast? with
  | none =>
    have empty : root = "" := String.toList_inj.mp (List.getLast?_eq_none_iff.mp last)
    exact .inr (.inl ⟨empty,by simp [empty]⟩)
  | some c =>
    by_cases slash : c = '/'
    · subst slash
      obtain ⟨front,split⟩ := List.getLast?_eq_some_iff.mp last
      exact .inl ⟨front,split,by simp [split]⟩
    · refine .inr (.inr ⟨fun none => by simp [none] at last,?_⟩)
      split
      next => contradiction
      next same =>
        cases same
        contradiction
      next => simp

theorem steps_of_toList {path back : String} {front : List Char}
    (split : path.toList = front ++ '/' :: back.toList) :
    Files.steps path = (front.splitOn '/').map String.ofList ++ Files.steps back := by
  rw [Files.steps,split,List.splitOn_append_cons_self,List.map_append]
  rfl

theorem below_ne_empty (root : String) (plain : NamePath path) : Source.below root path ≠ "" := by
  intro empty
  have none : (Source.below root path).toList = [] := by rw [empty]; rfl
  rcases below_cases root plain with ⟨front,-,below⟩ | ⟨-,below⟩ | ⟨-,below⟩
  · simp [below] at none
  · exact plain.toList_ne_nil (below ▸ none)
  · simp [below] at none

variable (rooted : Rooted files root folder) (plain : NamePath path)
include rooted plain

theorem walk_below : files.walk [] .folder (Files.steps (Source.below root path)) =
    files.walk folder .folder (Files.steps path) := by
  have leads := rooted.leads
  rcases below_cases root plain with ⟨front,slashed,below⟩ | ⟨empty,below⟩ | ⟨-,below⟩
  · have steps : Files.steps root = (front.splitOn '/').map String.ofList ++ [""] := by
      rw [Files.steps,slashed,List.splitOn_append_cons_self,List.map_append]
      rfl
    rw [steps,Files.folder?_append,Option.bind_eq_some_iff] at leads
    obtain ⟨same,leads,⟨⟩⟩ := leads
    rw [steps_of_toList below]
    exact Files.walk_append_of_folder? leads _
  · subst empty
    cases leads
    rw [below]
  · rw [steps_of_toList below]
    exact Files.walk_append_of_folder? leads _

theorem head_below_ne_slash : (Source.below root path).toList.head? ≠ some '/' := by
  have relative := rooted.relative
  rcases below_cases root plain with ⟨front,slashed,below⟩ | ⟨-,below⟩ | ⟨some,below⟩
  · rw [slashed] at relative
    rw [below]
    cases front with
    | nil => exact absurd rfl relative
    | cons c front => exact relative
  · rw [below]
    exact plain.head_ne_slash
  · rw [below]
    cases chars : root.toList with
    | nil => exact absurd chars some
    | cons c rest => simpa [chars] using relative

theorem zero_not_mem_below : '\x00' ∉ (Source.below root path).toList := by
  have whole := rooted.whole
  have none : '\x00' ∉ path.toList := plain.not_mem (by decide) (by decide)
  rcases below_cases root plain with ⟨front,slashed,below⟩ | ⟨-,below⟩ | ⟨-,below⟩
  · rw [slashed] at whole
    simp only [List.mem_append,not_or] at whole
    simpa [below,whole.1] using none
  · rw [below]
    exact none
  · simpa [below,whole] using none

theorem find_file_iff {contents : ByteArray} :
    files.find (Source.below root path) = .ok (.file contents) ↔
      files.entries.lookup (folder ++ Files.steps path) = some (some contents) := by
  have steps : Files.steps path ≠ [] := by simp [Files.steps,List.splitOn_ne_nil]
  have walked : files.walk folder .folder (Files.steps path) = .ok (.file contents) ↔
      files.entries.lookup (folder ++ Files.steps path) = some (some contents) :=
    rooted.tree.walk_file_iff steps fun step => plain.step
  rw [Files.find,if_neg (below_ne_empty root plain),
    if_neg (by simpa using rooted.zero_not_mem_below plain)]
  by_cases far : (Source.below root path).utf8ByteSize > Files.longestPath
  · rw [if_pos far]
    refine ⟨nofun,fun found => ?_⟩
    exact absurd (rooted.near path plain contents found) (by omega)
  · rw [if_neg far,if_neg (rooted.head_below_ne_slash plain),rooted.walk_below plain,walked]

/-- What a path from the root is read as is the text that the tree has under its names. -/
theorem text_below : (files.text (Source.below root path)).toOption =
    files.textBelow? folder path := by
  ext text
  rw [toOption_eq_some_iff,Files.text_eq_ok_iff,Files.textBelow?_eq_some_iff]
  simp only [rooted.find_file_iff plain]

end Rooted
end Placard
