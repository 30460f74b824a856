import Switchboard.Connection.Stream

/-!
# Timetables

How a stream of requests goes when computing takes no time and only waiting does. The requests are
all there at the beginning. Each becomes a call that goes as far as it can: to its end, to a lock
that another method holds, or to a wait for its token. From then on

* a call goes on as soon as the lock it stands before is free, those that came first first;
* a call goes on as soon as the token it waits for is canceled;
* otherwise time passes until the first of the waiting calls has waited long enough.

`Exchange.serveAll` serves a stream in this way. A call that goes on after a wait goes to its end: a
second wait of the same body takes no time.

Results: `mem_insertDue`, `pairwise_insertDue` (calls that wait are kept in the order of time).
-/

namespace Switchboard

/-- A call that waits, and when it has waited long enough. -/
structure Due where
  call : CallId
  token : Token
  /-- In milliseconds from the beginning. -/
  time : Nat
  deriving DecidableEq, Repr

/-- Adds a call to those that wait, behind all that have waited long enough by then. -/
def insertDue (d : Due) : List Due → List Due
  | [] => [d]
  | e :: es => if e.time ≤ d.time then e :: insertDue d es else d :: e :: es

/-- The calls that wait after one was added. -/
theorem mem_insertDue {d e : Due} {es : List Due} : e ∈ insertDue d es ↔ e = d ∨ e ∈ es := by
  induction es with
  | nil => simp [insertDue]
  | cons f fs ih =>
    unfold insertDue
    split
    · simp only [List.mem_cons, ih]
      constructor
      · rintro (h | h | h) <;> simp [h]
      · rintro (h | h | h) <;> simp [h]
    · simp

/-- Adding a call keeps the order of time. -/
theorem pairwise_insertDue {d : Due} {es : List Due}
    (h : es.Pairwise (fun a b => a.time ≤ b.time)) :
    (insertDue d es).Pairwise (fun a b => a.time ≤ b.time) := by
  induction es with
  | nil => simp [insertDue]
  | cons e es ih =>
    obtain ⟨hfirst, hrest⟩ := List.pairwise_cons.1 h
    unfold insertDue
    split
    · rename_i hle
      refine List.pairwise_cons.2 ⟨fun f hf => ?_, ih hrest⟩
      rcases mem_insertDue.1 hf with rfl | hf
      · exact hle
      · exact hfirst f hf
    · rename_i hlt
      refine List.pairwise_cons.2 ⟨fun f hf => ?_, h⟩
      rcases List.mem_cons.1 hf with rfl | hf
      · omega
      · have := hfirst f hf
        omega

/-- An exchange at a moment at which every call has gone as far as it can. -/
structure Timetable (ι σ κ : Type) [MessageFamily ι] where
  exchange : Exchange ι σ κ
  /-- In milliseconds from the beginning. -/
  now : Nat
  /-- The calls that stand before a lock, the first first. -/
  barred : List CallId
  /-- The calls that wait for their tokens, in the order of time. -/
  waiting : List Due

namespace Timetable

variable {ι σ κ : Type} [MessageFamily ι] [Inhabited σ]

/-- Notes what call `i` stands before or waits for. -/
def enlist (t : Timetable ι σ κ) (i : CallId) : Timetable ι σ κ :=
  match t.exchange.calls[i]? with
  | none => t
  | some c =>
    match c.wait? with
    | some (token, milliseconds) =>
      { t with waiting := insertDue ⟨i, token, t.now + milliseconds.toNat⟩ t.waiting }
    | none => if c.isReady then { t with barred := t.barred ++ [i] } else t

/-- Takes a request in. -/
def serve (t : Timetable ι σ κ) (r : Inbound κ) : Timetable ι σ κ :=
  let i := t.exchange.calls.length
  let (_, exchange) := t.exchange.serve r.request r.body r.client true
  { t with exchange }.enlist i

/-- Lets a call that has waited go to its end. -/
def finish (t : Timetable ι σ κ) (d : Due) : Timetable ι σ κ :=
  { t with exchange := t.exchange.complete d.call, waiting := t.waiting.erase d }

/-- Lets a call that stands before a lock try again. -/
def retry (t : Timetable ι σ κ) (i : CallId) : Timetable ι σ κ :=
  { t with exchange := t.exchange.runToWait i, barred := t.barred.erase i }.enlist i

/-- Whether the lock that call `i` stands before is free. -/
def isFree (t : Timetable ι σ κ) (i : CallId) : Bool :=
  match t.exchange.calls[i]?.map Call.phase with
  | some (.ready call _) => !t.exchange.station.taken.contains call.service
  | _ => true

/-- Lets the next call go on, if one is left. -/
def next? (t : Timetable ι σ κ) : Option (Timetable ι σ κ) :=
  match t.barred.find? t.isFree with
  | some i => some (t.retry i)
  | none =>
    match t.waiting.find? (t.exchange.connection.pending.tokens.isCanceled ·.token), t.waiting with
    | some d, _ => some (t.finish d)
    | none, d :: _ => some ({ t with now := max t.now d.time }.finish d)
    | none, [] => none

/-- Lets calls go on, `n` times at most. -/
def drain : Nat → Timetable ι σ κ → Timetable ι σ κ
  | 0, t => t
  | n + 1, t =>
    match t.next? with
    | some t => drain n t
    | none => t

end Timetable

namespace Exchange

variable {ι σ κ : Type} [MessageFamily ι] [Inhabited σ]

/-- Serves requests until there are no more and every call is over. Each call goes on twice at most,
once past a lock and once past a wait. -/
def serveAll (x : Exchange ι σ κ) (requests : List (Inbound κ)) : Exchange ι σ κ :=
  let t := requests.foldl Timetable.serve ⟨x, 0, [], []⟩
  let x := t.exchange.onConnection fun c => c.log none [.draining c.guards.count]
  ({ t with exchange := x }.drain (2 * x.calls.length)).exchange

end Exchange

end Switchboard
