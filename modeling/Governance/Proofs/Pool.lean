import Mathlib.Data.List.Forall2
import Governance.Pool

/-!
# What every schedule of a pool does

The steps of a pool are left to chance, and so are the order in which its reports arrive and the
worker that each job goes to. What is proved here holds of every run.

* `Step.rest_lt`, `Runs.le_rest`: each step of a run lowers `Pool.rest`, so a run that begins with
  `jobs` takes at most `3 * jobs.length + workers` steps (`length_of_runs_start`).
* `exists_step_of_not_finished`: a pool that is not `Finished` can go on; nothing deadlocks.
* `Sound`: each report is one that `gives` admits for the job of its place, wherever the report is.
* `Staffed`: as long as no work ends a worker, each place is in the queue, with a worker, in a
  report on its way or in a slot.
* `slots_of_finished`: in the end `p.slots` holds one report for each of the jobs, in their order.
* `exists_runs_of_reports`: all reports that `gives` admits are those of some run.
-/

namespace Governance

variable {α β : Type} {gives : α → Option β → Prop} {jobs : List α}

namespace Worker

/-- How many steps a worker may still take, if it is given no other job. -/
def rest : Worker α → Nat
  | .waiting => 1
  | .busy _ => 3
  | .ended => 0

/-- How many steps some workers may still take together. -/
def restAll : List (Worker α) → Nat
  | [] => 0
  | x :: workers => x.rest + restAll workers

theorem restAll_replicate (n : Nat) : restAll (.replicate n (.waiting : Worker α)) = n := by
  induction n with
  | zero => rfl
  | succ n ih =>
    rw [List.replicate_succ, restAll, ih, rest]
    omega

/-- What becomes of `restAll` when the worker `w` goes from `x` to `y`. -/
theorem restAll_set {workers : List (Worker α)} {w : Nat} {x : Worker α}
    (hw : workers[w]? = some x) (y : Worker α) :
    restAll (workers.set w y) + x.rest = restAll workers + y.rest := by
  induction workers generalizing w with
  | nil => exact absurd hw (by simp)
  | cons z workers ih =>
    cases w with
    | zero =>
      obtain rfl : z = x := by simpa using hw
      rw [List.set_cons_zero, restAll, restAll]
      omega
    | succ w =>
      have hsum := @ih w (by simpa using hw)
      rw [List.set_cons_succ, restAll, restAll]
      omega

/-- A worker other than `x` stays where it is when `x` goes over to `z`. -/
theorem mem_set_of_ne {workers : List (Worker α)} {w : Nat} {x y : Worker α}
    (hy : y ∈ workers) (hw : workers[w]? = some x) (hne : y ≠ x) (z : Worker α) :
    y ∈ workers.set w z := by
  obtain ⟨k, hk⟩ := List.mem_iff_getElem?.1 hy
  have hkw : w ≠ k := by
    rintro rfl
    rw [hw] at hk
    exact hne (Option.some.inj hk).symm
  exact List.mem_iff_getElem?.2 ⟨k, by rw [List.getElem?_set_ne hkw, hk]⟩

theorem mem_set_self {workers : List (Worker α)} {w : Nat} {x : Worker α}
    (hw : workers[w]? = some x) (z : Worker α) : z ∈ workers.set w z :=
  List.mem_set (List.getElem?_eq_some_iff.1 hw).1 z

end Worker

namespace Pool

variable {p q r : Pool α β} {n m workers : Nat}

/-! ### Runs come to an end -/

/-- How many steps a pool may still take. -/
def rest (p : Pool α β) : Nat :=
  3 * p.queue.length + Worker.restAll p.workers + p.reports.length

theorem rest_start (workers : Nat) (jobs : List α) :
    (start workers jobs : Pool α β).rest = 3 * jobs.length + workers := by
  simp [rest, start, Worker.restAll_replicate]

theorem Step.rest_lt (h : Step gives p q) : q.rest < p.rest := by
  cases h with
  | @take w job more hw hqueue =>
    have hsum := Worker.restAll_set hw (.busy job)
    simp only [rest, hqueue, List.length_cons, Worker.rest] at hsum ⊢
    omega
  | send hw hgives =>
    have hsum := Worker.restAll_set hw .waiting
    simp only [rest, List.length_append, List.length_singleton, Worker.rest] at hsum ⊢
    omega
  | fail hw hgives =>
    have hsum := Worker.restAll_set hw .ended
    simp only [rest, Worker.rest] at hsum ⊢
    omega
  | leave hw hqueue =>
    have hsum := Worker.restAll_set hw .ended
    simp only [rest, Worker.rest] at hsum ⊢
    omega
  | receive hreports =>
    simp only [rest, hreports, List.length_cons]
    omega

theorem Runs.le_rest (h : Runs gives p n q) : n + q.rest ≤ p.rest := by
  induction h with
  | here => omega
  | step _ hstep ih =>
    have hlt := hstep.rest_lt
    omega

/-- **Every run is finite**, and its length is bounded by what there is to do. -/
theorem length_of_runs_start (h : Runs gives (start workers jobs) n p) :
    n ≤ 3 * jobs.length + workers := by
  have hle := h.le_rest
  rw [rest_start] at hle
  omega

/-- **Nothing deadlocks**: a pool that cannot go on is finished. -/
theorem exists_step_of_not_finished (hgives : ∀ a, ∃ r, gives a r) (h : ¬ p.Finished) :
    ∃ q, Step gives p q := by
  by_cases hended : ∀ w ∈ p.workers, w = .ended
  · have hreports : p.reports ≠ [] := fun hnil => h ⟨hended, hnil⟩
    obtain ⟨r, more, hr⟩ := List.exists_cons_of_ne_nil hreports
    exact ⟨_, .receive hr⟩
  · push Not at hended
    obtain ⟨x, hx, hne⟩ := hended
    obtain ⟨w, hw⟩ := List.mem_iff_getElem?.1 hx
    cases x with
    | waiting =>
      cases hqueue : p.queue with
      | nil => exact ⟨_, .leave hw hqueue⟩
      | cons job more => exact ⟨_, .take hw hqueue⟩
    | busy job =>
      obtain ⟨a, i⟩ := job
      obtain ⟨r, hr⟩ := hgives a
      cases r with
      | none => exact ⟨_, .fail hw hr⟩
      | some b => exact ⟨_, .send hw hr⟩
    | ended => exact absurd rfl hne

/-! ### Reports belong to their places -/

theorem length_fillSlot (slots : List (Option β)) (r : β × Nat) :
    (fillSlot slots r).length = slots.length := List.length_set

/-- What a slot holds after a report has arrived is that report, or was there before. -/
theorem eq_or_of_getElem?_fillSlot {slots : List (Option β)} {r : β × Nat} {i : Nat} {b : β}
    (h : (fillSlot slots r)[i]? = some (some b)) : r = (b, i) ∨ slots[i]? = some (some b) := by
  rw [fillSlot, List.getElem?_set] at h
  by_cases hi : r.2 = i
  · rw [if_pos hi] at h
    split at h
    · exact .inl (Prod.ext (by simpa using h) hi)
    · exact absurd h (by simp)
  · rw [if_neg hi] at h
    exact .inr h

/-- The report that is next in order fills the first slot that is empty. -/
theorem fillSlot_next (done : List β) (b : β) (n : Nat) :
    fillSlot (done.map some ++ .replicate (n + 1) none) (b, done.length)
      = (done ++ [b]).map some ++ .replicate n none := by
  simp [fillSlot, List.replicate_succ]

/-- Reports that arrive in their order fill all slots in that order. -/
theorem foldl_fillSlot (bs : List β) :
    bs.zipIdx.foldl fillSlot (.replicate bs.length none) = bs.map some := by
  have hgeneral (done : List β) : (bs.zipIdx done.length).foldl fillSlot
      (done.map some ++ .replicate bs.length none) = (done ++ bs).map some := by
    induction bs generalizing done with
    | nil => simp
    | cons b bs ih =>
      have hrest := ih (done ++ [b])
      rw [List.length_append, List.length_singleton] at hrest
      rw [List.zipIdx_cons, List.foldl_cons, List.length_cons, fillSlot_next, hrest,
        List.append_assoc, List.singleton_append]
  exact hgeneral []

/-- Wherever a job or a report is, it is a job of its place or a report on it. -/
structure Sound (gives : α → Option β → Prop) (jobs : List α) (p : Pool α β) : Prop where
  queue : ∀ job ∈ p.queue, jobs[job.2]? = some job.1
  busy : ∀ job, .busy job ∈ p.workers → jobs[job.2]? = some job.1
  reports : ∀ r ∈ p.reports, ∃ a : α, jobs[r.2]? = some a ∧ gives a (some r.1)
  length : p.slots.length = jobs.length
  slots : ∀ (i : Nat) (b : β), p.slots[i]? = some (some b) →
    ∃ a : α, jobs[i]? = some a ∧ gives a (some b)

theorem sound_start (workers : Nat) (jobs : List α) :
    Sound gives jobs (start workers jobs) where
  queue job hjob := List.mk_mem_zipIdx_iff_getElem?.1 hjob
  busy job hjob := absurd (List.eq_of_mem_replicate hjob) nofun
  reports r hr := absurd hr List.not_mem_nil
  length := List.length_replicate
  slots i b h := by
    obtain ⟨hi, hb⟩ := List.getElem?_eq_some_iff.1 h
    exact absurd hb (by simp [start])

/-- No worker has got another job than one that `p.queue` had for it. -/
theorem Sound.busy_set (h : Sound gives jobs p) {w : Nat} {x : Worker α}
    (hx : ∀ job, x = .busy job → jobs[job.2]? = some job.1) (job : α × Nat)
    (hjob : .busy job ∈ p.workers.set w x) : jobs[job.2]? = some job.1 :=
  (List.mem_or_eq_of_mem_set hjob).elim (h.busy job) fun heq => hx job heq.symm

theorem Sound.step (h : Sound gives jobs p) (hstep : Step gives p q) : Sound gives jobs q := by
  cases hstep with
  | @take w job more hw hqueue =>
    have hjob : jobs[job.2]? = some job.1 := h.queue job (hqueue ▸ List.mem_cons_self)
    refine ⟨fun later hlater => h.queue later (hqueue ▸ List.mem_cons_of_mem job hlater), ?_,
      h.reports, h.length, h.slots⟩
    refine h.busy_set fun given hgiven => ?_
    obtain rfl := Worker.busy.inj hgiven
    exact hjob
  | @send w i a b hw hgives =>
    have hjob : jobs[i]? = some a := h.busy (a, i) (List.mem_of_getElem? hw)
    refine ⟨h.queue, h.busy_set nofun, fun r hr => ?_, h.length, h.slots⟩
    rcases List.mem_append.1 hr with hold | hnew
    · exact h.reports r hold
    · obtain rfl := List.mem_singleton.1 hnew
      exact ⟨a, hjob, hgives⟩
  | fail hw hgives => exact ⟨h.queue, h.busy_set nofun, h.reports, h.length, h.slots⟩
  | leave hw hqueue => exact ⟨h.queue, h.busy_set nofun, h.reports, h.length, h.slots⟩
  | @receive r more hreports =>
    refine ⟨h.queue, h.busy, fun later hlater => h.reports later
      (hreports ▸ List.mem_cons_of_mem r hlater), (length_fillSlot _ r).trans h.length,
      fun i b hb => ?_⟩
    rcases eq_or_of_getElem?_fillSlot hb with rfl | hold
    · exact h.reports (b, i) (hreports ▸ List.mem_cons_self)
    · exact h.slots i b hold

theorem sound_of_runs (h : Runs gives (start workers jobs) n p) : Sound gives jobs p := by
  induction h with
  | here => exact sound_start workers jobs
  | step _ hstep ih => exact ih.step hstep

/-! ### No place is lost -/

/-- Somebody has the job of the place `i`, or has reported on it. -/
def Keeps (p : Pool α β) (i : Nat) : Prop :=
  (∃ a, (a, i) ∈ p.queue) ∨ (∃ a, .busy (a, i) ∈ p.workers) ∨ (∃ b, (b, i) ∈ p.reports)
    ∨ ∃ b, p.slots[i]? = some (some b)

/-- Every place is kept, and while there are jobs there is a worker for them. -/
structure Staffed (jobs : List α) (p : Pool α β) : Prop where
  keeps : ∀ i < jobs.length, p.Keeps i
  length : p.slots.length = jobs.length
  worker : p.queue ≠ [] → ∃ x ∈ p.workers, x ≠ .ended

theorem staffed_start (hworkers : 0 < workers) (jobs : List α) :
    Staffed jobs (start workers jobs : Pool α β) where
  keeps i hi := .inl ⟨jobs[i], List.mk_mem_zipIdx_iff_getElem?.2 (List.getElem?_eq_getElem hi)⟩
  length := List.length_replicate
  worker _ := ⟨.waiting, List.mem_replicate.2 ⟨Nat.pos_iff_ne_zero.1 hworkers, rfl⟩, nofun⟩

/-- A step that ends no worker over a job keeps each place. -/
theorem Keeps.step (hgives : ∀ a, ¬ gives a none) (hstep : Step gives p q) {i : Nat}
    (hi : i < p.slots.length) (h : p.Keeps i) : q.Keeps i := by
  cases hstep with
  | @take w job more hw hqueue =>
    rcases h with ⟨a, ha⟩ | ⟨a, ha⟩ | hrest
    · rw [hqueue] at ha
      rcases List.mem_cons.1 ha with rfl | hmore
      · exact .inr (.inl ⟨a, Worker.mem_set_self hw _⟩)
      · exact .inl ⟨a, hmore⟩
    · exact .inr (.inl ⟨a, Worker.mem_set_of_ne ha hw nofun _⟩)
    · exact .inr (.inr hrest)
  | @send w k a b hw hb =>
    rcases h with hqueued | ⟨c, hc⟩ | ⟨c, hc⟩ | hslot
    · exact .inl hqueued
    · by_cases hsame : (c, i) = (a, k)
      · obtain ⟨rfl, rfl⟩ := Prod.mk.inj hsame
        exact .inr (.inr (.inl ⟨b, List.mem_append_right _ (List.mem_singleton.2 rfl)⟩))
      · exact .inr (.inl ⟨c, Worker.mem_set_of_ne hc hw (fun h => hsame (Worker.busy.inj h)) _⟩)
    · exact .inr (.inr (.inl ⟨c, List.mem_append_left _ hc⟩))
    · exact .inr (.inr (.inr hslot))
  | fail hw hnone => exact absurd hnone (hgives _)
  | leave hw hqueue =>
    rcases h with hqueued | ⟨a, ha⟩ | hrest
    · exact .inl hqueued
    · exact .inr (.inl ⟨a, Worker.mem_set_of_ne ha hw nofun _⟩)
    · exact .inr (.inr hrest)
  | @receive r more hreports =>
    rcases h with hqueued | hbusy | ⟨b, hb⟩ | ⟨b, hb⟩
    · exact .inl hqueued
    · exact .inr (.inl hbusy)
    · rw [hreports] at hb
      rcases List.mem_cons.1 hb with rfl | hmore
      · exact .inr (.inr (.inr ⟨b, List.getElem?_set_self hi⟩))
      · exact .inr (.inr (.inl ⟨b, hmore⟩))
    · refine .inr (.inr (.inr ?_))
      by_cases hk : r.2 = i
      · subst hk
        exact ⟨r.1, List.getElem?_set_self hi⟩
      · exact ⟨b, (List.getElem?_set_ne hk).trans hb⟩

theorem Staffed.step (hgives : ∀ a, ¬ gives a none) (hstep : Step gives p q)
    (h : Staffed jobs p) : Staffed jobs q := by
  have hlength : q.slots.length = p.slots.length := by
    cases hstep with
    | receive hreports => exact length_fillSlot _ _
    | _ => rfl
  refine ⟨fun i hi => (h.keeps i hi).step hgives hstep (h.length ▸ hi), hlength.trans h.length, ?_⟩
  cases hstep with
  | take hw hqueue => exact fun _ => ⟨_, Worker.mem_set_self hw _, nofun⟩
  | send hw hb => exact fun _ => ⟨_, Worker.mem_set_self hw _, nofun⟩
  | fail hw hnone => exact absurd hnone (hgives _)
  | leave hw hqueue => exact fun hne => absurd hqueue hne
  | receive hreports => exact h.worker

theorem staffed_of_runs (hgives : ∀ a, ¬ gives a none) (hworkers : 0 < workers)
    (h : Runs gives (start workers jobs) n p) : Staffed jobs p := by
  induction h with
  | here => exact staffed_start hworkers jobs
  | step _ hstep ih => exact ih.step hgives hstep

/-- A finished pool that was staffed all the time has a report in every slot. -/
theorem Staffed.exists_of_finished (h : Staffed jobs p) (hp : p.Finished) {i : Nat}
    (hi : i < jobs.length) : ∃ b, p.slots[i]? = some (some b) := by
  rcases h.keeps i hi with ⟨a, ha⟩ | ⟨a, ha⟩ | ⟨b, hb⟩ | hslot
  · obtain ⟨x, hx, hne⟩ := h.worker (List.ne_nil_of_mem ha)
    exact absurd (hp.ended x hx) hne
  · exact absurd (hp.ended _ ha) nofun
  · rw [hp.arrived] at hb
    exact absurd hb List.not_mem_nil
  · exact hslot

/-- **Whatever the schedule was, the slots of a finished pool hold a report on each of the jobs, in
the order of the jobs.** -/
theorem slots_of_finished (hgives : ∀ a, ¬ gives a none) (hworkers : 0 < workers)
    (h : Runs gives (start workers jobs) n p) (hp : p.Finished) :
    ∃ bs, p.slots = bs.map some ∧ List.Forall₂ (fun a b => gives a (some b)) jobs bs := by
  have hsound := sound_of_runs h
  have hstaffed := staffed_of_runs hgives hworkers h
  have hfilled : ∀ i : Fin jobs.length, ∃ b, p.slots[i.val]? = some (some b) :=
    fun i => hstaffed.exists_of_finished hp i.isLt
  choose b hb using hfilled
  have hslots : p.slots = (List.ofFn b).map some := by
    refine List.ext_getElem (by simp [hsound.length]) fun i hi _ => ?_
    have hslot := hb ⟨i, hsound.length ▸ hi⟩
    rw [List.getElem?_eq_getElem hi] at hslot
    simpa using hslot
  refine ⟨List.ofFn b, hslots, List.forall₂_iff_get.2 ⟨by simp, fun i hi _ => ?_⟩⟩
  obtain ⟨a, ha, hgive⟩ := hsound.slots i (b ⟨i, hi⟩) (hb ⟨i, hi⟩)
  rw [List.getElem?_eq_getElem hi] at ha
  obtain rfl := Option.some.inj ha
  simpa using hgive

/-! ### All reports occur -/

theorem Runs.trans (h : Runs gives p n q) (h' : Runs gives q m r) : Runs gives p (n + m) r := by
  induction h' with
  | here => exact h
  | step _ hstep ih => exact ih.step hstep

/-- Once nothing is left to do, the workers leave one after the other. -/
theorem exists_runs_ended {gone : Nat} (hqueue : p.queue = []) (harrived : p.reports = [])
    (hworkers : p.workers = .replicate gone .ended ++ .replicate m .waiting) :
    ∃ n q, Runs gives p n q ∧ q.Finished ∧ q.slots = p.slots := by
  induction m generalizing p gone with
  | zero =>
    refine ⟨0, p, .here, ⟨fun w hw => ?_, harrived⟩, rfl⟩
    rw [hworkers, List.replicate_zero, List.append_nil] at hw
    exact List.eq_of_mem_replicate hw
  | succ m ih =>
    have hw : p.workers[gone]? = some .waiting := by simp [hworkers]
    have hleave : Step gives p { p with workers := p.workers.set gone .ended } :=
      .leave hw hqueue
    have hset : p.workers.set gone .ended
        = .replicate (gone + 1) .ended ++ .replicate m .waiting := by
      have hgone : List.replicate (gone + 1) (.ended : Worker α)
          = .replicate gone .ended ++ [.ended] := List.replicate_succ'
      rw [hgone, hworkers, List.set_append_right _ _ (by simp), List.length_replicate,
        Nat.sub_self, List.append_assoc]
      rfl
    obtain ⟨n, q, hruns, hq, hslots⟩ :=
      ih (p := { p with workers := p.workers.set gone .ended }) hqueue harrived hset
    exact ⟨1 + n, q, (Runs.here.step hleave).trans hruns, hq, hslots⟩

/-- A pool that has reported on some jobs, all of it by its first worker, with `jobs` to come. -/
def inOrder (workers : Nat) (done : List β) (jobs : List α) : Pool α β where
  queue := jobs.zipIdx done.length
  workers := .replicate workers .waiting
  reports := []
  slots := done.map some ++ .replicate jobs.length none

theorem inOrder_nil (workers : Nat) (jobs : List α) :
    (inOrder workers [] jobs : Pool α β) = start workers jobs := by
  simp [inOrder, start]

/-- The first worker takes the next job, reports on it, and the report arrives. -/
theorem runs_inOrder (hworkers : 0 < workers) {a : α} {b : β} (hgives : gives a (some b))
    (done : List β) (jobs : List α) :
    Runs gives (inOrder workers done (a :: jobs)) 3 (inOrder workers (done ++ [b]) jobs) := by
  obtain ⟨k, rfl⟩ := Nat.exists_eq_succ_of_ne_zero (Nat.pos_iff_ne_zero.1 hworkers)
  have hrun : Runs gives (inOrder (k + 1) done (a :: jobs)) 3
      ⟨jobs.zipIdx (done.length + 1), .replicate (k + 1) .waiting, [],
        fillSlot (done.map some ++ .replicate (jobs.length + 1) none) (b, done.length)⟩ :=
    Runs.here
      |>.step (@Step.take _ _ _ _ 0 (a, done.length) (jobs.zipIdx (done.length + 1)) rfl rfl)
      |>.step (@Step.send _ _ _ _ 0 done.length a b rfl hgives)
      |>.step (@Step.receive _ _ _ _ (b, done.length) [] rfl)
  simpa [inOrder, fillSlot_next] using hrun

/-- **All reports occur**: whatever reports `gives` admits for `jobs`, one after the other, some run
of any number of workers ends with them. -/
theorem exists_runs_of_reports (hworkers : 0 < workers) {bs : List β}
    (h : List.Forall₂ (fun a b => gives a (some b)) jobs bs) :
    ∃ n p, Runs gives (start workers jobs) n p ∧ p.Finished ∧ p.slots = bs.map some := by
  have hgeneral : ∀ done : List β, ∃ n p, Runs gives (inOrder workers done jobs) n p
      ∧ p.Finished ∧ p.slots = (done ++ bs).map some := by
    induction h with
    | nil =>
      intro done
      obtain ⟨n, p, hruns, hp, hslots⟩ :=
        @exists_runs_ended _ _ gives (inOrder workers done []) workers 0 rfl rfl rfl
      exact ⟨n, p, hruns, hp, by simp [hslots, inOrder]⟩
    | cons hgives _ ih =>
      intro done
      obtain ⟨n, p, hruns, hp, hslots⟩ := ih (done ++ [_])
      exact ⟨3 + n, p, (runs_inOrder hworkers hgives done _).trans hruns, hp, by
        rw [hslots, List.append_assoc, List.singleton_append]⟩
  rw [← inOrder_nil]
  exact hgeneral []

end Pool

end Governance
