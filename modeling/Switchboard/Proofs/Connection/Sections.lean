import Switchboard.Proofs.Connection.Writing

/-!
# Lock sections

A response is written in a lock section: from the step at which its call takes the lock on the wire
to the step at which it gives the lock back. `Exchange.sections` lists the sections of a schedule in
the order in which the lock was taken. A section is told by the states before and after the step
that begins it, as the call that took the lock and the answer that this call had ready; the journal
has no part in it.

`Exchange.Divided` is the invariant: the sections are those that have ended, whose responses were
sent in that order, and behind them the one of the call that holds the lock, if one does.
`Exchange.Sectioned` says the same of the list of all of them.

Results:

* `flatten_of_chunks`: the first pieces of a response are a prefix of it.
* `Exchange.Sectioned.next`, `Exchange.Sectioned.follow`: what one way to go on, and what a
  schedule, does to the sections.
* `Exchange.wire_eq_sections`: on every schedule the wire is the responses of the sections that have
  ended, in the order of the lock, and a prefix of the response that is being written.
-/

namespace Switchboard

/-- What the first pieces of a response hold is a prefix of it, which ends between two pieces. -/
theorem flatten_of_chunks {bytes : Bytes} {written rest : List Bytes}
    (h : chunks bytes = written ++ rest) :
    written.flatten = bytes.take (chunkSize * written.length) := by
  induction written generalizing bytes with
  | nil => rfl
  | cons piece written ih =>
    rw [chunks] at h
    split at h
    · cases h
    · obtain ⟨hpiece, hrest⟩ := List.cons.inj h
      rw [List.flatten_cons, ih hrest, ← hpiece, List.length_cons, Nat.mul_add_one, Nat.add_comm,
        List.take_add]

variable {ι σ κ : Type} [MessageFamily ι]

/-! ## Sections -/

/-- Whether the answer is out in this phase, and the lock given back. -/
def Phase.isOut : Phase ι σ κ → Bool
  | .written | .forgotten | .over => true
  | _ => false

/-- An answer that is out stays out. -/
theorem Outward.isOut {i : CallId} {r : Request} {guarded : Bool} {s s' : Station ι σ κ}
    {phase phase' : Phase ι σ κ} (h : Outward i r guarded s phase phase' s')
    (hp : phase.isOut = true) : phase'.isOut = true := by
  cases h with
  | silent before after same =>
    cases phase with
    | written => cases before
    | forgotten => cases before
    | «over» => cases before
    | _ => cases hp
  | lock reply error free => cases hp
  | write frame? piece rest => cases hp
  | _ => rfl

namespace Exchange

/-- Whether call `i` has sent its answer and given the lock back. -/
def hasSent (x : Exchange ι σ κ) (i : CallId) : Bool := x.calls[i]?.any (·.phase.isOut)

/-- The answer that call `i` has ready and not begun to write. -/
def answer? (x : Exchange ι σ κ) (i : CallId) : Option Frame :=
  match x.calls[i]? with
  | some ⟨r, _, .answering reply error⟩ => some (r.compose reply error).2
  | _ => none

/-- The section that begins between `x` and `y`: nobody holds the lock in `x`, and in `y` a call
does, for the answer that it had ready. -/
def opened? (x y : Exchange ι σ κ) : Option (CallId × Frame) :=
  match x.connection.writer, y.connection.writer with
  | none, some i => (x.answer? i).map (i, ·)
  | _, _ => none

/-- No section begins where the lock does not change hands. -/
theorem opened?_of_writer {x y : Exchange ι σ κ}
    (h : y.connection.writer = x.connection.writer) : x.opened? y = none := by
  unfold opened?
  rw [h]
  cases x.connection.writer <;> rfl

/-- No section begins where the lock is given back. -/
theorem opened?_of_free {x y : Exchange ι σ κ} (h : y.connection.writer = none) :
    x.opened? y = none := by
  unfold opened?
  rw [h]
  cases x.connection.writer <;> rfl

variable [Inhabited σ] in
/-- The sections of a schedule, in the order in which the lock on the wire is taken. -/
def sections (x : Exchange ι σ κ) : List (Choice ι κ) → List (CallId × Frame)
  | [] => []
  | m :: ms =>
    match x.choose m with
    | none => []
    | some y => (x.opened? y).toList ++ y.sections ms

/-! ## The invariant -/

variable {x y : Exchange ι σ κ} {i : CallId} {c : Call ι σ κ}

theorem hasSent_set (here : x.calls[i]? = some c) {phase : Phase ι σ κ} {s : Station ι σ κ}
    (ho : Outward i c.request c.guarded x.station c.phase phase s) {j : CallId}
    (hj : x.hasSent j = true) : hasSent ⟨s, x.calls.set i { c with phase }⟩ j = true := by
  obtain ⟨hi, -⟩ := List.getElem?_eq_some_iff.1 here
  unfold hasSent at hj ⊢
  by_cases hji : j = i
  · subst hji
    rw [here, Option.any_some] at hj
    rw [List.getElem?_set_self hi, Option.any_some]
    exact ho.isOut hj
  · rw [List.getElem?_set_ne (Ne.symm hji)]
    exact hj

/-- The sections so far: those that have ended, and the one that is under way. -/
structure Divided (x : Exchange ι σ κ) (ended : List (CallId × Frame))
    (current : Option (CallId × Frame)) : Prop where
  /-- The lock is held in the section that is under way. -/
  writer : x.connection.writer = current.map Prod.fst
  /-- The responses sent are those of the sections that have ended. -/
  sent : x.connection.sent = ended.map Prod.snd
  out : ∀ s ∈ ended, x.hasSent s.1 = true
  /-- The call that holds the lock writes its answer. -/
  writing : ∀ s, current = some s → ∃ rest, x.wireView.writing s.1 = some (some s.2, rest)

/-- These are the sections so far. -/
def Sectioned (x : Exchange ι σ κ) (all : List (CallId × Frame)) : Prop :=
  ∃ ended current, x.Divided ended current ∧ all = ended ++ current.toList

variable {ended all : List (CallId × Frame)} {current : Option (CallId × Frame)}

/-- A call that writes has not sent its answer. -/
theorem hasSent_of_writing {p : Option Frame × List Bytes} (h : x.wireView.writing i = some p) :
    x.hasSent i = false := by
  obtain ⟨c, hc, hp⟩ := exists_of_aspect _ h
  obtain ⟨request, guarded, phase⟩ := c
  rw [hasSent, hc, Option.any_some]
  cases phase with
  | writing frame? rest => rfl
  | _ => cases hp

/-- Those of the sections that have ended are those whose calls have sent their answers. -/
theorem Divided.filter_eq (h : x.Divided ended current) :
    (ended ++ current.toList).filter (fun s => x.hasSent s.1) = ended := by
  have hended : ended.filter (fun s => x.hasSent s.1) = ended := List.filter_eq_self.2 h.out
  have hcurrent : current.toList.filter (fun s => x.hasSent s.1) = [] := by
    rw [List.filter_eq_nil_iff]
    intro s hs
    obtain ⟨rest, hrest⟩ := h.writing s (Option.mem_toList.1 hs)
    rw [hasSent_of_writing hrest]
    exact Bool.false_ne_true
  rw [List.filter_append, hended, hcurrent, List.append_nil]

theorem sectioned_new (server : Server ι σ κ) (ref : TableRef) : (new server ref).Sectioned [] :=
  ⟨[], none, ⟨rfl, rfl, fun _ h => absurd h List.not_mem_nil, fun _ h => nomatch h⟩, rfl⟩

/-- The lock stays with whom it is, and nothing is sent: the sections are those there were. -/
theorem Divided.keep (h : x.Divided ended current)
    (hwriter : y.connection.writer = x.connection.writer)
    (hsent : y.connection.sent = x.connection.sent)
    (hout : ∀ j, x.hasSent j = true → y.hasSent j = true)
    (hwriting : ∀ j f rest, x.wireView.writing j = some (some f, rest) →
      ∃ rest', y.wireView.writing j = some (some f, rest')) :
    y.Sectioned (ended ++ current.toList ++ (x.opened? y).toList) := by
  refine ⟨ended, current, ⟨?_, ?_, fun s hs => hout s.1 (h.out s hs), ?_⟩, ?_⟩
  · rw [hwriter, h.writer]
  · rw [hsent, h.sent]
  · intro s hs
    obtain ⟨rest, hrest⟩ := h.writing s hs
    exact hwriting s.1 s.2 rest hrest
  · rw [opened?_of_writer hwriter, Option.toList_none, List.append_nil]

/-- What is nothing for the wire leaves the sections as they are. -/
theorem Divided.keep_of_wireView (h : x.Divided ended current) (hview : y.wireView = x.wireView)
    (hout : ∀ j, x.hasSent j = true → y.hasSent j = true) :
    y.Sectioned (ended ++ current.toList ++ (x.opened? y).toList) := by
  refine h.keep (congrArg WireView.writer hview) (congrArg WireView.sent hview) hout ?_
  intro j f rest hj
  exact ⟨rest, hview ▸ hj⟩

/-- A call takes the lock: a section begins. -/
theorem Divided.lock (h : x.Divided ended current) {f : Frame} {rest : List Bytes}
    (free : x.connection.writer = none) (hanswer : x.answer? i = some f)
    (held : y.connection.writer = some i) (hsent : y.connection.sent = x.connection.sent)
    (hout : ∀ j, x.hasSent j = true → y.hasSent j = true)
    (hwriting : y.wireView.writing i = some (some f, rest)) :
    y.Sectioned (ended ++ current.toList ++ (x.opened? y).toList) := by
  have hnone : current = none := Option.map_eq_none_iff.1 (h.writer.symm.trans free)
  have hopened : x.opened? y = some (i, f) := by
    unfold opened?
    rw [free, held]
    exact congrArg (Option.map (i, ·)) hanswer
  refine ⟨ended, some (i, f), ⟨held, hsent.trans h.sent, fun s hs => hout s.1 (h.out s hs), ?_⟩, ?_⟩
  · rintro _ ⟨⟩
    exact ⟨rest, hwriting⟩
  · rw [hopened, hnone, Option.toList_none, List.append_nil]

/-- The call that holds the lock gives it back, with its response sent: its section ends. -/
theorem Divided.unlock {f : Frame} (h : x.Divided ended (some (i, f)))
    (free : y.connection.writer = none) (hsent : y.connection.sent = x.connection.sent ++ [f])
    (hout : ∀ j, x.hasSent j = true → y.hasSent j = true) (hi : y.hasSent i = true) :
    y.Sectioned (ended ++ (some (i, f)).toList ++ (x.opened? y).toList) := by
  refine ⟨ended ++ [(i, f)], none, ⟨free, ?_, ?_, fun _ h => nomatch h⟩, ?_⟩
  · rw [hsent, h.sent, List.map_append, List.map_singleton]
  · intro s hs
    rcases List.mem_append.1 hs with hs | hs
    · exact hout s.1 (h.out s hs)
    · rw [List.mem_singleton.1 hs]
      exact hi
  · rw [opened?_of_free free]
    rfl

/-- The section under way is that of the call that writes. -/
theorem Divided.current_eq (h : x.Divided ended current) {f : Frame} {rest : List Bytes}
    (held : x.connection.writer = some i) (hi : x.wireView.writing i = some (some f, rest)) :
    current = some (i, f) := by
  rw [h.writer] at held
  obtain ⟨⟨k, g⟩, rfl, rfl⟩ := Option.map_eq_some_iff.1 held
  obtain ⟨rest', hg⟩ := h.writing _ rfl
  rw [hi] at hg
  cases hg
  rfl

/-- **What a move does to the sections.** It begins one, ends the one under way, or leaves them as
they are. -/
theorem Divided.move (h : x.Divided ended current) (sound : x.wireView.Sound)
    (here : x.calls[i]? = some c) {phase : Phase ι σ κ} {s : Station ι σ κ}
    (ho : Outward i c.request c.guarded x.station c.phase phase s) :
    Sectioned ⟨s, x.calls.set i { c with phase }⟩
      (ended ++ current.toList ++ (x.opened? ⟨s, x.calls.set i { c with phase }⟩).toList) := by
  have hout := fun j => hasSent_set (j := j) here ho
  have hat : x.wireView.writing i = c.phase.writing? := aspect_of_getElem? _ here
  have hview := congrArg WireView.writing (wireView_set here phase s)
  obtain ⟨request, guarded, p⟩ := c
  cases ho with
  | silent before after same =>
    have hp := (Phase.writing?_of_isInside after).trans (Phase.writing?_of_isInside before).symm
    exact h.keep_of_wireView (wireView_of_same here hp same.writer same.wire same.sent) hout
  | forget =>
    exact h.keep_of_wireView (wireView_of_same here rfl rfl rfl (Connection.sent_free _ _ _)) hout
  | finish =>
    refine h.keep_of_wireView ?_ hout
    cases guarded with
    | false => exact wireView_of_same here rfl rfl rfl rfl
    | true => exact wireView_of_same here rfl rfl rfl (Connection.sent_dropGuard _ _)
  | lock reply error free =>
    have hlog := x.station.connection.silent_lock i (request.compose reply error).1
    have hanswer : x.answer? i = some (request.compose reply error).2 := by
      unfold answer?
      rw [here]
    exact h.lock free hanswer hlog.writer hlog.sent hout
      ((congrFun hview i).trans (Function.update_self ..))
  | write frame? piece rest =>
    refine h.keep rfl rfl hout ?_
    intro j f rest' hj
    rw [hview]
    by_cases hji : j = i
    · subst hji
      rw [hat] at hj
      cases hj
      exact ⟨rest, Function.update_self ..⟩
    · exact ⟨rest', (Function.update_of_ne hji ..).trans hj⟩
  | unlock frame? =>
    obtain ⟨f, written, rfl, held, -, -, -⟩ := sound.writes hat
    obtain rfl := h.current_eq held hat
    obtain ⟨hi, -⟩ := List.getElem?_eq_some_iff.1 here
    refine h.unlock rfl (x.station.connection.sent_unlock i (some f)) hout ?_
    rw [hasSent, List.getElem?_set_self hi]
    rfl

variable [Inhabited σ]

/-- **What one way to go on does to the sections.** The one that begins on it, if one does, comes
behind those there were. -/
theorem Sectioned.next (h : x.Sectioned all) (sound : x.wireView.Sound) (hnext : x.Next y) :
    y.Sectioned (all ++ (x.opened? y).toList) := by
  obtain ⟨ended, current, hdivided, rfl⟩ := h
  cases hnext with
  | arrive request guarded phase events first =>
    refine hdivided.keep_of_wireView (x.wireView_arrive request guarded events first) ?_
    intro j hj
    obtain ⟨c, hc, hout⟩ := (Option.any_eq_true ..).1 hj
    obtain ⟨hlt, -⟩ := List.getElem?_eq_some_iff.1 hc
    refine (Option.any_eq_true ..).2 ⟨c, ?_, hout⟩
    rw [List.getElem?_append_left hlt, hc]
  | move here moves => exact hdivided.move sound here moves.outward

/-- What a schedule does to the sections: its own come behind those there were. -/
theorem Sectioned.follow (h : x.Sectioned all) (sound : x.wireView.Sound)
    {ms : List (Choice ι κ)} (hy : x.follow ms = some y) : y.Sectioned (all ++ x.sections ms) := by
  induction ms generalizing x all with
  | nil =>
    cases hy
    rw [sections, List.append_nil]
    exact h
  | cons m ms ih =>
    obtain ⟨z, hz, hrest⟩ := Option.bind_eq_some_iff.1 hy
    have hnext := next_of_choose hz
    have hsectioned := ih (h.next sound hnext) (hnext.sound_wireView sound) hrest
    rw [List.append_assoc] at hsectioned
    rw [sections, hz]
    exact hsectioned

/-! ## The wire -/

/-- **Responses never interleave.** On every schedule the wire holds, one after the other and in the
order in which their calls took the lock, the whole responses of the sections that have ended, and
behind them a prefix, cut between two pieces, of the response of the call that holds the lock. So
when nobody holds it, the wire reads back as the responses of all sections, in that order. -/
theorem wire_eq_sections {server : Server ι σ κ} {ref : TableRef} {ms : List (Choice ι κ)}
    (h : (new server ref).follow ms = some x) :
    ∃ ended, ended = ((new server ref).sections ms).filter (fun s => x.hasSent s.1) ∧
      (x.connection.writer = none →
        (new server ref).sections ms = ended ∧
          x.connection.wire = ended.flatMap (·.2.bytes) ∧
          ((∀ s ∈ ended, s.2.Fits) → x.connection.frames = .ok (ended.map Prod.snd))) ∧
      ∀ i, x.connection.writer = some i → ∃ f n,
        (new server ref).sections ms = ended ++ [(i, f)] ∧
          x.connection.wire = ended.flatMap (·.2.bytes) ++ f.bytes.take (chunkSize * n) := by
  have sound := sound_wireView (runs_of_follow h)
  obtain ⟨ended, current, hdivided, hsections⟩ :=
    (sectioned_new server ref).follow (sound_wireView_new server ref) h
  rw [List.nil_append] at hsections
  have hsent : x.connection.sent.flatMap Frame.bytes = ended.flatMap (·.2.bytes) := by
    rw [hdivided.sent, List.flatMap_map]
  refine ⟨ended, ?_, ?_, ?_⟩
  · rw [hsections, hdivided.filter_eq]
  · intro free
    obtain rfl : current = none := Option.map_eq_none_iff.1 (hdivided.writer.symm.trans free)
    rw [Option.toList_none, List.append_nil] at hsections
    refine ⟨hsections, (sound.wire_of_free free).trans hsent, ?_⟩
    intro hfit
    rw [← hdivided.sent]
    refine frames_eq_sent (runs_of_follow h) free ?_
    rw [hdivided.sent]
    exact List.forall_mem_map.2 hfit
  · intro i held
    obtain ⟨⟨k, f⟩, rfl, rfl⟩ := Option.map_eq_some_iff.1 (hdivided.writer.symm.trans held)
    obtain ⟨rest, hrest⟩ := hdivided.writing _ rfl
    obtain ⟨_, written, ⟨⟩, -, -, hpieces, hwire⟩ := sound.writes hrest
    refine ⟨f, written.length, hsections, ?_⟩
    rw [← flatten_of_chunks hpieces, ← hsent]
    exact hwire

/-- Three answers at once: the second call is through with its answer, the third one writes, and the
first one waits for the lock. -/
def contending : List (Choice Empty Empty) :=
  [.accept (.cancel 1 9) true, .reject ⟨"nowhere", 2⟩ "unreachable", .accept (.cancel 3 9) false] ++
    (List.replicate 9 [.call 0 true, .call 2 true]).flatten ++
      List.replicate 6 (.call 1 true) ++ List.replicate 2 (.call 2 true)

theorem wire_eq_sections_contending :
    ∃ x, (new Server.bare ⟨0⟩).follow contending = some x ∧ x.connection.writer = some 2 ∧
      ((new Server.bare ⟨0⟩).sections contending).map Prod.fst = [1, 2] ∧
      ∃ ended f n, (new Server.bare ⟨0⟩).sections contending = ended ++ [(2, f)] ∧
        x.connection.wire = ended.flatMap (·.2.bytes) ++ f.bytes.take (chunkSize * n) := by
  have run : ((new Server.bare ⟨0⟩).follow contending).any fun x => decide
      (x.connection.writer = some 2 ∧
        ((new Server.bare ⟨0⟩).sections contending).map Prod.fst = [1, 2]) := by
    decide +kernel
  simp only [Option.any_eq_true, decide_eq_true_eq] at run
  obtain ⟨x, hx, held, hcalls⟩ := run
  obtain ⟨ended, -, -, hbusy⟩ := wire_eq_sections hx
  obtain ⟨f, n, hsections, hwire⟩ := hbusy 2 held
  exact ⟨x, hx, held, hcalls, ended, f, n, hsections, hwire⟩

end Exchange

end Switchboard
