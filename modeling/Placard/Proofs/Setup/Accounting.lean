import Mathlib.Data.Fin.Basic
import Mathlib.Data.List.FinRange
import Mathlib.Data.List.Pairwise
import Placard.Proofs.Registry.Counting

/-! What a report accounts for. Each entry of the manifest is counted once, as a card, as an event or
as skipped, and an entry that is kept counts as overwriting if its key had been noted before, by an
earlier setup or for an earlier entry. -/
namespace Placard.Setup

variable {σ : Type} {r r' : Registry} {source : Source (StateM σ)} {location : Location}
  {manifest : String} {options : SetupOptions} {report : Report}

/-- The key of the entry at a place had been noted, or an entry at an earlier place has it too. -/
def Replaces (r : Registry) (entries : List Entry) (i : Fin entries.length) : Prop :=
  (r.keys.lookup entries[i].target.key).isSome ∨
    ∃ j < i, entries[j].target.key = entries[i].target.key

instance (r : Registry) (entries : List Entry) : DecidablePred (Replaces r entries) :=
  fun _ => inferInstanceAs (Decidable (_ ∨ _))

def replaced (r : Registry) (entries : List Entry) : Nat :=
  (List.finRange entries.length).countP (Replaces r entries ·)

theorem replaced_cons {e : Entry} (rest : List Entry)
    (noted : ∀ key, (r'.keys.lookup key).isSome ↔ key = e.target.key ∨ (r.keys.lookup key).isSome) :
    replaced r (e :: rest) = (r.keys.lookup e.target.key).isSome.toNat + replaced r' rest := by
  have first : Replaces r (e :: rest) 0 ↔ (r.keys.lookup e.target.key).isSome := by
    simp [Replaces]
  have later (i : Fin rest.length) : Replaces r (e :: rest) i.succ ↔ Replaces r' rest i := by
    have earlier : (∃ j < i.succ, (e :: rest)[j].target.key = rest[i].target.key) ↔
        e.target.key = rest[i].target.key ∨ ∃ j < i, rest[j].target.key = rest[i].target.key := by
      simp [Fin.exists_fin_succ]
    simp only [Replaces,noted]
    grind
  have places : List.finRange (e :: rest).length = 0 :: (List.finRange rest.length).map Fin.succ :=
    List.finRange_succ
  rw [replaced,places,List.countP_cons,List.countP_map,Nat.add_comm]
  simp only [Function.comp_def,first,later,replaced]
  cases (r.keys.lookup e.target.key).isSome <;> rfl

theorem noted_of_stored {l : Language} {id : String} {c : Compiled} {again : Bool}
    (stored : Registry.Stored r l id c again r') (key : String) :
    (r'.keys.lookup key).isSome ↔ key = id ∨ (r.keys.lookup key).isSome := by
  rw [stored.keys,lookup_bind]
  by_cases same : key = id <;> simp [same]

theorem countP_again_registrations {report report' : Report} {pairs : List (Entry × String)}
    (done : registerAll r report pairs = (.ok report',r')) :
    (registrations r pairs).countP (·.again) = replaced r (pairs.map (·.1)) := by
  induction pairs generalizing r report with
  | nil => rfl
  | cons p rest ih =>
    obtain ⟨again,r₁,step,done⟩ := registerAll_cons_ok_iff.mp done
    obtain ⟨c,-,stored⟩ := Registry.registerText_ok step
    rw [List.map_cons,replaced_cons _ (noted_of_stored stored),← ih done,← stored.noted]
    simp only [registrations,step,List.countP_cons]
    cases again <;> simp [Nat.add_comm]

/-- A row that goes through is reported by its entries and by the keys that had been noted before. -/
theorem report_of_registerAll {skipped : Nat} {pairs : List (Entry × String)}
    (done : registerAll r ⟨0,0,0,skipped⟩ pairs = (.ok report,r')) :
    report = {
      cards := (pairs.map (·.1)).countP (·.target.client.isSome)
      events := (pairs.map (·.1)).countP (·.target.client.isNone)
      overwritten := replaced r (pairs.map (·.1))
      skipped := skipped } := by
  obtain ⟨rfl,-⟩ := registerAll_report done
  have again : ((registrations r pairs).map (·.again)).count true = replaced r (pairs.map (·.1)) := by
    rw [← countP_again_registrations done,List.count,List.countP_map]
    simp [Function.comp_def]
  simp [Report.plus,Report.of,again]

/-- The noted keys grow by the entries that do not find theirs noted. -/
theorem length_keys_of_registerAll {report report' : Report} {pairs : List (Entry × String)}
    (done : registerAll r report pairs = (.ok report',r')) (sorted : Ascending r.keys) :
    Ascending r'.keys ∧
      r'.keys.length + replaced r (pairs.map (·.1)) = r.keys.length + pairs.length := by
  obtain ⟨ascending,grown⟩ := (Registry.books_registerAll r report pairs).keys sorted
  obtain ⟨-,complete⟩ := registerAll_report done
  rw [done,complete,countP_again_registrations done] at grown
  rw [done] at ascending
  exact ⟨ascending,grown⟩

/-- Entries with keys of their own find those noted that had been noted before the row. -/
theorem replaced_of_apart {entries : List Entry} (apart : (keys entries).Nodup) (r : Registry) :
    replaced r entries = entries.countP fun e => (r.keys.lookup e.target.key).isSome := by
  have first (i : Fin entries.length) :
      Replaces r entries i ↔ (r.keys.lookup (entries.get i).target.key).isSome := by
    refine or_iff_left ?_
    rintro ⟨j,before,same⟩
    rw [keys,List.Nodup,List.pairwise_map,List.pairwise_iff_get] at apart
    exact apart j i before same
  conv_rhs => rw [← List.map_get_finRange entries,List.countP_map]
  simp only [replaced,first,Function.comp_def,Bool.decide_eq_true]

/-- Entries whose keys have all been noted are all counted. -/
theorem replaced_of_noted {entries : List Entry}
    (noted : ∀ e ∈ entries, (r.keys.lookup e.target.key).isSome) :
    replaced r entries = entries.length := by
  rw [replaced,List.countP_eq_length.mpr,List.length_finRange]
  intro i _
  exact decide_eq_true (.inl (noted _ (List.getElem_mem _)))

/-- Afterwards the keys of a row that goes through are noted, beside those that had been. -/
theorem noted_of_registerAll {report report' : Report} {pairs : List (Entry × String)}
    (done : registerAll r report pairs = (.ok report',r')) (key : String) :
    (r'.keys.lookup key).isSome ↔ key ∈ keys (pairs.map (·.1)) ∨ (r.keys.lookup key).isSome := by
  induction pairs generalizing r report with
  | nil =>
    cases done
    simp [keys]
  | cons p rest ih =>
    obtain ⟨again,r₁,step,done⟩ := registerAll_cons_ok_iff.mp done
    obtain ⟨c,-,stored⟩ := Registry.registerText_ok step
    rw [ih done,noted_of_stored stored]
    simp [keys,or_left_comm,or_assoc]

/-- A report accounts for every entry of the manifest: it is a card, an event or skipped. Overwritten
are the entries that are kept whose keys had been noted before or stand earlier among them, and the
noted keys, each of which is noted once, grow by what was registered less what was overwritten. -/
theorem setup_accounts {w : σ}
    (done : ((r.setup source location manifest options).run w).1 = (.ok report,r')) :
    ∃ text entries, source.answers w manifest = .ok text ∧ Manifest.parse text = .ok entries ∧
      report.cards + report.events + report.skipped = entries.length ∧
      report.cards = (entries.filter options.keeps).countP (·.target.client.isSome) ∧
      report.events = (entries.filter options.keeps).countP (·.target.client.isNone) ∧
      report.overwritten = replaced r (entries.filter options.keeps) ∧
      (Ascending r.keys → Ascending r'.keys ∧
        r'.keys.length + report.overwritten = r.keys.length + (report.cards + report.events)) := by
  obtain ⟨pairs,skipped,⟨text,entries,found,parsed,kept,others⟩,-,registered⟩ :=
    registerAll_of_setup done
  have reported := report_of_registerAll registered
  have either := countP_cards_add_events (pairs.map (·.1))
  refine ⟨text,entries,found,parsed,?_⟩
  rw [← kept]
  simp only [reported,true_and]
  constructor
  · have fewer : (pairs.map (·.1)).length ≤ entries.length := by
      rw [kept]
      exact List.length_filter_le _ _
    omega
  · intro sorted
    rw [either,List.length_map]
    exact length_keys_of_registerAll registered sorted

/-- An earlier setup has noted one of the keys, and another one is listed twice. -/
theorem report_counts_noted_and_repeated :
    let source := Source.recording relisted
    let full : Target := ⟨.handlebars,"disk:full",none⟩
    let before := (((Registry.standard true [.handlebars]).setup source (.folder ".") "Manifest.json"
      ⟨.overwrite,some full⟩).run []).1.2
    Ascending before.keys ∧ ∃ report after,
      ((before.setup source (.folder ".") "Manifest.json" ⟨.overwrite,none⟩).run []).1 =
        (.ok report,after) ∧
      (∃ text entries, relisted "Manifest.json" = .ok text ∧ Manifest.parse text = .ok entries ∧
        report.cards + report.events + report.skipped = entries.length ∧
        report.overwritten = replaced before entries) ∧
      report = ⟨0,3,2,0⟩ ∧ before.keys.length = 1 ∧ after.keys.length = 2 := by
  intro source full before
  have noted : before.keys = [(full.key,.handlebars)] := by decide +kernel
  have reported : ((before.setup source (.folder ".") "Manifest.json"
      ⟨.overwrite,none⟩).run []).1.1.toOption = some ⟨0,3,2,0⟩ := by
    decide +kernel
  have sorted : Ascending before.keys := by simp [noted,Ascending]
  rcases done : ((before.setup source (.folder ".") "Manifest.json" ⟨.overwrite,none⟩).run []).1 with
    ⟨_ | report,after⟩
  · simp [done,Except.toOption] at reported
  · simp only [done,Except.toOption,Option.some.injEq] at reported
    obtain ⟨text,entries,found,parsed,whole,-,-,again,grown⟩ := setup_accounts done
    have length := (grown sorted).2
    rw [noted,reported] at length
    rw [filter_keeps_none] at again
    refine ⟨sorted,report,after,rfl,⟨text,entries,found,parsed,whole,again⟩,reported,?_,?_⟩
    · rw [noted]
      rfl
    · simpa using length

end Placard.Setup
