import Switchboard.Proofs.Connection.Answers

/-!
# Serving a stream of requests

Serving reads the requests of a stream one after the other and returns when the last is read and no
guard is held any more. What is in the books of the exchange is then in the books of the stream: the
calls are the requests that were read, in the order in which they were read, each with a guard.

Results:

* `Stream.exists_served`: the calls are the requests read so far.
* `Stream.one_answer_each`: when no guard is held, each request read so far has exactly one answer
  on the wire and is forgotten exactly once, and nothing else is there.
-/

namespace Switchboard.Stream

variable {ι σ κ : Type} [MessageFamily ι] [Inhabited σ]

/-- What a call keeps through all of its moves. -/
def label (c : Call ι σ κ) : Request × Bool := (c.request, c.guarded)

omit [Inhabited σ] in
theorem label_accept (x : Exchange ι σ κ) (r : Inbound κ) :
    (x.accept r.request r.body r.client true).2.calls.map label =
      x.calls.map label ++ [(r.request, true)] := by
  obtain ⟨phase, -, hcalls⟩ := Exchange.exists_of_accept x r.request r.body r.client true
  rw [hcalls, List.map_append]
  rfl

/-- A turn reads the next request, or leaves the queue and what calls keep as they were. -/
theorem step_cases {s t : Stream ι σ κ} {turn : Turn} (h : s.step turn = some t) :
    (∃ r, s.queue = r :: t.queue ∧
      t.exchange.calls.map label = s.exchange.calls.map label ++ [(r.request, true)]) ∨
    (t.queue = s.queue ∧ t.exchange.calls.map label = s.exchange.calls.map label) := by
  cases turn with
  | accept =>
    simp only [step] at h
    split at h
    · cases h
    · cases hq : s.queue with
      | nil =>
        rw [hq] at h
        cases h
      | cons r queue =>
        have hlabel := label_accept s.exchange r
        simp only [hq] at h
        split at h
        · rename_i exchange ha
          cases h
          rw [ha] at hlabel
          exact .inl ⟨r, rfl, hlabel⟩
        · rename_i exchange ha
          cases h
          rw [ha] at hlabel
          exact .inl ⟨r, rfl, hlabel⟩
  | call i expired =>
    simp only [step] at h
    obtain ⟨y, hy, rfl⟩ := Option.map_eq_some_iff.1 h
    obtain ⟨c, phase, here, -, hcalls⟩ := Exchange.exists_of_step hy
    refine .inr ⟨rfl, ?_⟩
    change y.calls.map label = _
    rw [hcalls]
    exact map_set_same here rfl

variable {server : Server ι σ κ} {ref : TableRef} {requests : List (Inbound κ)}
  {s : Stream ι σ κ}

/-- The calls are the requests read so far, each with a guard; the others are in the queue. -/
theorem exists_served (run : Reaches (new (.new server ref) requests) s) :
    ∃ served, requests = served ++ s.queue ∧
      s.exchange.calls.map label = served.map fun r => (r.request, true) := by
  induction run with
  | refl => exact ⟨[], rfl, rfl⟩
  | step turn _ hstep ih =>
    obtain ⟨served, hrequests, hlabel⟩ := ih
    rcases step_cases hstep with ⟨r, hqueue, hcalls⟩ | ⟨hqueue, hcalls⟩
    · refine ⟨served ++ [r], ?_, ?_⟩
      · rw [hrequests, hqueue, List.append_assoc, List.singleton_append]
      · rw [hcalls, hlabel, List.map_append, List.map_singleton]
    · exact ⟨served, by rw [hrequests, hqueue], by rw [hcalls, hlabel]⟩

/-- When no guard is held, every call is over. -/
theorem isOver_of_isIdle (run : Reaches (new (.new server ref) requests) s)
    (idle : s.exchange.connection.guards.isIdle = true) :
    ∀ c ∈ s.exchange.calls, c.isOver = true := by
  intro c hc
  obtain ⟨served, -, hlabel⟩ := exists_served run
  have hmem : label c ∈ served.map fun r => (r.request, true) := by
    rw [← hlabel]
    exact List.mem_map_of_mem hc
  obtain ⟨r, -, hr⟩ := List.mem_map.1 hmem
  have hguarded : c.guarded = true := (congrArg Prod.snd hr).symm
  exact (Exchange.booked (runs_of_reaches run)).isOver_of_isIdle idle hc hguarded

omit [Inhabited σ] in
/-- Once all calls are over, the books hold all of them. -/
theorem flatMap_of_isOver {calls : List (Call ι σ κ)} (h : ∀ c ∈ calls, c.isOver = true) :
    calls.flatMap Call.answered = (calls.map label).map (·.1.key) ∧
      calls.flatMap Call.freed = (calls.map label).map (·.1.seq) := by
  induction calls with
  | nil => exact ⟨rfl, rfl⟩
  | cons c calls ih =>
    obtain ⟨ha, hf⟩ := Call.of_isOver (h c List.mem_cons_self)
    obtain ⟨iha, ihf⟩ := ih fun d hd => h d (List.mem_cons_of_mem c hd)
    rw [List.flatMap_cons, List.flatMap_cons, ha, hf, iha, ihf]
    exact ⟨rfl, rfl⟩

/-- Nobody writes when all calls are over. -/
theorem writer_eq_none (run : Reaches (new (.new server ref) requests) s)
    (h : ∀ c ∈ s.exchange.calls, c.isOver = true) : s.exchange.connection.writer = none := by
  cases Exchange.sound_wireView (runs_of_reaches run) with
  | idle free _ _ => exact free
  | busy i f written rest _ writes _ _ _ =>
    obtain ⟨c, here, hc⟩ := Exchange.exists_of_aspect _ writes
    have hover := h c (List.mem_of_getElem? here)
    obtain ⟨request, guarded, phase⟩ := c
    cases phase with
    | «over» => cases hc
    | _ => cases hover

/-- **One answer for each request.** Serve any requests on any server, in any order of the steps of
their calls. Whenever no guard is held, the requests read so far have each exactly one response on
the wire and are each forgotten exactly once; nothing else is on the wire or forgotten, and a
response with an error has no body. So it is when serving has returned, and then all requests have
been read. -/
theorem one_answer_each (run : Reaches (new (.new server ref) requests) s)
    (idle : s.exchange.connection.guards.isIdle = true)
    (fits : ∀ f ∈ s.exchange.connection.sent, f.Fits) :
    ∃ served fs, requests = served ++ s.queue ∧ (s.IsOver → served = requests) ∧
      s.exchange.connection.frames = .ok fs ∧
      (fs.map Frame.key).Perm (served.map (·.request.key)) ∧
      s.exchange.connection.freed.Perm (served.map (·.request.seq)) ∧
      ∀ f ∈ fs, f.header.error ≠ "" → f.body = [] := by
  obtain ⟨served, hrequests, hlabel⟩ := exists_served run
  have hover := isOver_of_isIdle run idle
  have hbooked := Exchange.booked (runs_of_reaches run)
  obtain ⟨hanswered, hfreed⟩ := flatMap_of_isOver hover
  rw [hlabel, List.map_map] at hanswered hfreed
  refine ⟨served, s.exchange.connection.sent, hrequests, ?_, ?_, ?_, ?_, hbooked.bodies⟩
  · intro hreturned
    rw [hrequests, hreturned.1, List.append_nil]
  · exact Exchange.frames_eq_sent (runs_of_reaches run) (writer_eq_none run hover) fits
  · exact hanswered ▸ hbooked.sent
  · exact hfreed ▸ hbooked.freed

/-- Two requests of one number, and one without a method. -/
def sample : Stream Empty Unit Empty :=
  new (.new .bare ⟨0⟩) [.cancel 1 9, .cancel 1 9, ⟨⟨"nowhere", 3⟩, [], .none⟩]

/-- The first two calls take turns until one of them writes; the third request is read before the
other one does. -/
def sampleTurns : List Turn :=
  [.accept, .accept] ++ (List.replicate 9 [.call 0 true, .call 1 true]).flatten ++
    List.replicate 7 (.call 0 true) ++ [.accept] ++ List.replicate 7 (.call 1 true) ++
      List.replicate 10 (.call 2 true)

theorem one_answer_each_sample :
    ∃ s, Reaches sample s ∧ s.IsOver ∧ ∃ fs, s.exchange.connection.frames = .ok fs ∧
      (fs.map Frame.key).Perm [("_goRPC_.Cancel", 1), ("_goRPC_.Cancel", 1), ("nowhere", 3)] ∧
      s.exchange.connection.freed.Perm [1, 1, 3] := by
  have run : (sample.follow sampleTurns).any fun s => decide
      (s.queue = [] ∧ s.isBusy = false ∧ s.exchange.connection.guards.isIdle = true ∧
        ∀ f ∈ s.exchange.connection.sent, f.Fits) := by decide +kernel
  simp only [Option.any_eq_true, decide_eq_true_eq] at run
  obtain ⟨s, hs, hqueue, hbusy, hidle, hfits⟩ := run
  have hover : s.IsOver := ⟨hqueue, hbusy, hidle⟩
  have run := reaches_of_follow hs
  obtain ⟨served, fs, -, hserved, hframes, hkeys, hfreed, -⟩ := one_answer_each run hidle hfits
  rw [hserved hover] at hkeys hfreed
  exact ⟨s, run, hover, fs, hframes, hkeys, hfreed⟩

end Switchboard.Stream
