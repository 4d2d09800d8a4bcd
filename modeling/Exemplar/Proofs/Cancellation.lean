import Mathlib.Algebra.Order.Field.Rat
import Mathlib.Data.ENat.Lattice
import Exemplar.Proofs.Resolution

/-!
# Progress and cancellation

A resolution polls its watch before each class and reports after it.  So the reports are those of
the polls that let it go on, in order, and a watch that calls off after some number of them stops it
there unless all classes are done by then.  What comes of a resolution that is not stopped does not
depend on the watch.
-/

namespace Exemplar

/-- How much is done, as a fraction of the whole. -/
def Progress.fraction (progress : Progress) : ℚ :=
  progress.done / progress.total

/-- The first reports of a resolution of `total` classes. -/
def Progress.upTo (count total : ℕ) : List Progress :=
  (List.range count).map fun earlier => ⟨earlier + 1, total⟩

/-- A watch that lets go on until it has received `limit` reports and calls off then; `⊤` stands for
a watch that never does. -/
structure Watch.CallsOffAt (watch : Watch) (limit : ℕ∞) : Prop where
  quiet : ∀ received : ℕ, received < limit → watch received = false
  calls : ∀ received : ℕ, received = limit → watch received = true

theorem Progress.length_upTo (count total : ℕ) : (upTo count total).length = count := by
  rw [upTo, List.length_map, List.length_range]

/-- One report after the other tells a larger fraction. -/
theorem Progress.upTo_increasing {count total : ℕ} (h : count ≤ total) :
    ((upTo count total).map fraction).Pairwise (· < ·) := by
  rw [upTo, List.map_map, List.pairwise_map]
  refine List.pairwise_lt_range.imp_of_mem ?_
  intro earlier later _ hlater hlt
  have hpositive : (0 : ℚ) < total := by
    have hcount := List.mem_range.1 hlater
    exact_mod_cast (by omega : 0 < total)
  have hdone : ((earlier + 1 : ℕ) : ℚ) < (later + 1 : ℕ) := by
    exact_mod_cast Nat.succ_lt_succ hlt
  exact div_lt_div_of_pos_right hdone hpositive

/-- The last report of all tells the whole. -/
theorem Progress.upTo_ends {total : ℕ} (h : 0 < total) :
    ((upTo total total).map fraction).getLast? = some 1 := by
  have hwhole : (total : ℚ) ≠ 0 := by exact_mod_cast h.ne'
  have hlast : total - 1 + 1 = total := Nat.sub_add_cancel h
  rw [upTo, List.map_map, List.getLast?_map, List.getLast?_range, if_neg h.ne', Option.map_some,
    Function.comp_apply, fraction, hlast, div_self hwhole]

namespace Resolution

open Discovery

/-! ## The reports of a resolution -/

/-- A resolution reports once for each poll that lets it go on. -/
theorem resolveClasses_reports (known : Known) (watch : Watch) (total done : ℕ)
    (entries : List (String × Draft)) :
    (resolveClasses known watch total done entries).reports =
      ((List.range' done entries.length).takeWhile fun received => !watch received).map
        fun earlier => ⟨earlier + 1, total⟩ := by
  induction entries generalizing done with
  | nil => rfl
  | cons entry rest ih =>
      rw [resolveClasses, List.length_cons, List.range'_succ]
      cases hpoll : watch done with
      | true => simp [hpoll]
      | false => simp [hpoll, ih]

theorem takeWhile_range {test : ℕ → Bool} {count total : ℕ} (h : count ≤ total)
    (hpasses : ∀ number < count, test number = true)
    (hstops : count < total → test count = false) :
    (List.range total).takeWhile test = List.range count := by
  have hfront : ∀ number ∈ List.range count, test number = true :=
    fun number hnumber => hpasses number (List.mem_range.1 hnumber)
  obtain ⟨more, rfl⟩ := Nat.exists_eq_add_of_le h
  rw [List.range_add, List.takeWhile_append_of_pos hfront]
  cases more with
  | zero => exact List.append_nil _
  | succ more =>
      have hnext : test (count + 0) = false := hstops (by omega)
      rw [List.range_succ_eq_map, List.map_cons,
        List.takeWhile_cons_of_neg (by rw [hnext]; exact Bool.false_ne_true), List.append_nil]

theorem resolve_reports {watch : Watch} {limit : ℕ∞} (h : watch.CallsOffAt limit)
    {discovery : Discovery} {sent : ℕ} (hsent : (sent : ℕ∞) = min limit discovery.classes.length) :
    (discovery.resolve watch).reports = Progress.upTo sent discovery.classes.length := by
  have hpolls : (List.range discovery.classes.length).takeWhile (fun received => !watch received) =
      List.range sent := by
    apply takeWhile_range
    · exact_mod_cast hsent.trans_le (min_le_right _ _)
    · intro number hnumber
      have hlimit : (number : ℕ∞) < limit :=
        lt_of_lt_of_le (by exact_mod_cast hnumber) (hsent.trans_le (min_le_left _ _))
      rw [h.quiet number hlimit, Bool.not_false]
    · intro hless
      have hlimit : (sent : ℕ∞) = limit := by
        rcases min_choice limit (discovery.classes.length : ℕ∞) with hmin | hmin
        · exact hsent.trans hmin
        · exact absurd (hsent.trans hmin) (by exact_mod_cast hless.ne)
      rw [h.calls sent hlimit, Bool.not_true]
  rw [Discovery.resolve, resolveClasses_reports, ← List.range_eq_range', hpolls, Progress.upTo]

/-- A resolution is called off exactly if not all classes are done by then. -/
theorem callsOff_iff {watch : Watch} {limit : ℕ∞} (h : watch.CallsOffAt limit) (count : ℕ) :
    watch.callsOff 0 count = true ↔ limit < count := by
  rw [Watch.callsOff, ← List.range_eq_range', List.any_eq_true]
  constructor
  · rintro ⟨received, hreceived, hcalls⟩
    have hlimit : limit ≤ received := by
      by_contra hquiet
      rw [h.quiet received (not_le.1 hquiet)] at hcalls
      cases hcalls
    exact hlimit.trans_lt (by exact_mod_cast List.mem_range.1 hreceived)
  · intro hlimit
    lift limit to ℕ using hlimit.ne_top
    exact ⟨limit, List.mem_range.2 (by exact_mod_cast hlimit), h.calls limit rfl⟩

theorem callsOffAt_never : Watch.never.CallsOffAt ⊤ where
  quiet _ _ := rfl
  calls received h := absurd h (ENat.natCast_ne_top received)

theorem callsOffAt_after (count : ℕ) : (Watch.after count).CallsOffAt count where
  quiet received h := decide_eq_false (Nat.not_le.2 (by exact_mod_cast h))
  calls received h := decide_eq_true (le_of_eq (by exact_mod_cast h.symm))

/-- Under a watch that calls off after `limit` reports, a resolution of so many classes reports that
one, two and more of them are done, in this order and never the same fraction twice, until the watch
calls off or the classes are done, whichever comes first.  If the watch calls off before the last
class, the resolution ends as cancelled, without a model; otherwise its last report is that all is
done, and its model is the one that comes out when nothing watches. -/
theorem resolve_until_called_off (discovery : Discovery) {watch : Watch} {limit : ℕ∞}
    (h : watch.CallsOffAt limit) :
    let total := discovery.classes.length
    let outcome := discovery.resolve watch
    ∃ sent : ℕ, sent = min limit total ∧
      outcome.reports = Progress.upTo sent total ∧ outcome.reports.length = sent ∧
      (outcome.reports.map Progress.fraction).Pairwise (· < ·) ∧
      (limit < total → outcome.result = .error .cancelled) ∧
      (total ≤ limit →
        (0 < total → (outcome.reports.map Progress.fraction).getLast? = some 1) ∧
        ∃ model, outcome.result = .ok model ∧
          (discovery.resolve Watch.never).result = .ok model) := by
  intro total outcome
  have hfinite : min limit (total : ℕ∞) ≠ ⊤ :=
    ne_top_of_le_ne_top (ENat.natCast_ne_top total) (min_le_right _ _)
  obtain ⟨sent, hsent⟩ := ENat.ne_top_iff_exists.1 hfinite
  have hless : sent ≤ total := by exact_mod_cast hsent.trans_le (min_le_right _ _)
  have hreports : outcome.reports = Progress.upTo sent total := resolve_reports h hsent
  refine ⟨sent, hsent, hreports, ?_, ?_, ?_, ?_⟩
  · rw [hreports, Progress.length_upTo]
  · rw [hreports]
    exact Progress.upTo_increasing hless
  · intro hlimit
    exact (resolve_result discovery watch).trans (if_pos ((callsOff_iff h total).2 hlimit))
  · intro hlimit
    have hall : sent = total := by exact_mod_cast hsent.trans (min_eq_right hlimit)
    have hquiet : ∀ received < total, watch received = false := fun received hreceived =>
      h.quiet received (lt_of_lt_of_le (by exact_mod_cast hreceived) hlimit)
    refine ⟨?_, discovery.resolved, ?_, ?_⟩
    · intro hpositive
      rw [hreports, hall]
      exact Progress.upTo_ends hpositive
    · exact resolve_of_quiet hquiet
    · exact resolve_of_quiet fun _ _ => rfl

/-- Three classes, one inside the other. -/
def threeClasses : Discovery :=
  discovered "m" "Root" (.object [("a", .object [("b", .object [])])])

/-- Called off before the last class, only after it, and never. -/
theorem resolve_until_called_off_threeClasses :
    ((Watch.after 2).CallsOffAt 2 ∧
        (threeClasses.resolve (Watch.after 2)).reports = [⟨1, 3⟩, ⟨2, 3⟩] ∧
        (threeClasses.resolve (Watch.after 2)).result = .error .cancelled) ∧
      ((Watch.after 3).CallsOffAt 3 ∧
        (threeClasses.resolve (Watch.after 3)).reports = [⟨1, 3⟩, ⟨2, 3⟩, ⟨3, 3⟩] ∧
        ∃ model, (threeClasses.resolve (Watch.after 3)).result = .ok model ∧
          (threeClasses.resolve Watch.never).result = .ok model) ∧
      Watch.never.CallsOffAt ⊤ ∧
        (threeClasses.resolve Watch.never).reports = [⟨1, 3⟩, ⟨2, 3⟩, ⟨3, 3⟩] := by
  have hcount : threeClasses.classes.length = 3 := by decide +kernel
  obtain ⟨early, hearly, hreported, -, -, hcancelled, -⟩ :=
    resolve_until_called_off threeClasses (callsOffAt_after 2)
  obtain ⟨late, hlate, hall, -, -, -, hdone⟩ :=
    resolve_until_called_off threeClasses (callsOffAt_after 3)
  obtain ⟨last, hlast, hquiet, -, -, -, -⟩ :=
    resolve_until_called_off threeClasses callsOffAt_never
  rw [hcount] at hearly hreported hcancelled hlate hall hdone hlast hquiet
  obtain rfl : early = 2 := by exact_mod_cast hearly.trans (min_eq_left (by decide))
  obtain rfl : late = 3 := by exact_mod_cast hlate.trans (min_eq_left le_rfl)
  obtain rfl : last = 3 := by exact_mod_cast hlast.trans (min_eq_right le_top)
  exact ⟨⟨callsOffAt_after 2, hreported, hcancelled (by decide)⟩,
    ⟨callsOffAt_after 3, hall, (hdone (by decide)).2⟩, callsOffAt_never, hquiet⟩

end Resolution

end Exemplar
