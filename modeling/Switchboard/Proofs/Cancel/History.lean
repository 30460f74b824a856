import Mathlib.Data.Set.Card
import Switchboard.Proofs.Cancel.Table

/-!
# A pending table and its history

Whoever starts a number is handed a handle to its token, and may copy it. The copies, and the one
that the table keeps, share the token: it can be canceled through any of them, and through the table
by its number. `Holdings` is a table together with all the handles that were handed out, and
`Holdings.after` what a history of operations makes of an empty one.

What is in the table, which starts give the same token and which tokens are canceled can be read off
the history alone. The reason is what happens to a token. It is bound to one number from the start
that makes it until that number is canceled (`token?_run`), and every start of the number gives it.
From then on it is gone (`Gone`): it is canceled, and no start ever gives it again.

Results:

* `Holdings.Sound.start_eq_iff`: two starts give the same token exactly if they start one number that
  was not canceled between them.
* `Holdings.isCanceled_after_iff`: a token is canceled exactly if somebody canceled it.
* `Holdings.contains_after_iff`: a number is in the table exactly if it was started last.
* `Holdings.toldOnce_after`: of all cancellations of a token the first one alone succeeds.
* `Holdings.follow_history`: all of it together.
-/

namespace Switchboard

/-! ## The entries of a table -/

namespace Pending

variable {p : Pending}

/-- The numbers in a table, each once. -/
def HasKeys (p : Pending) : Prop := (p.entries.map (·.1)).Nodup

theorem contains_iff (p : Pending) (seq : UInt64) :
    p.contains seq = true ↔ seq ∈ p.entries.map (·.1) := by
  unfold contains token?
  rw [Option.isSome_iff_ne_none, Ne, List.lookup_eq_none_iff]
  simp

theorem HasKeys.start (h : p.HasKeys) (seq : UInt64) : (p.start seq).2.2.HasKeys := by
  unfold Pending.start
  cases found : p.token? seq with
  | some t => exact h
  | none =>
    have free : seq ∉ p.entries.map (·.1) := by
      rw [← contains_iff, contains, found]
      exact Bool.false_ne_true
    exact List.nodup_cons.2 ⟨free, h⟩

theorem HasKeys.cancel (h : p.HasKeys) (seq : UInt64) : (p.cancel seq).2.HasKeys := by
  rw [cancel_eq]
  cases found : p.token? seq with
  | some t =>
    unfold HasKeys remove
    rw [found]
    exact h.sublist (List.filter_sublist.map _)
  | none => exact h

/-- The size of a table counts the numbers that are in it. -/
theorem HasKeys.size_eq (h : p.HasKeys) : p.size = {seq | p.contains seq = true}.ncard := by
  have same : {seq | p.contains seq = true} = ((p.entries.map (·.1)).toFinset : Set UInt64) := by
    ext seq
    simp [contains_iff]
  rw [same, Set.ncard_coe_finset, List.toFinset_card_of_nodup h, List.length_map]
  rfl

/-- No token is bound to two numbers. -/
def Separates (p : Pending) : Prop :=
  ∀ q s t, p.token? q = some t → p.token? s = some t → q = s

theorem KnowsTokens.separates_start (known : p.KnowsTokens) (h : p.Separates) (seq : UInt64) :
    (p.start seq).2.2.Separates := by
  -- A number other than `seq` is bound to the token that the start gives only if `seq` was, too.
  have other : ∀ q, p.token? q = some (p.start seq).1 → q = seq := by
    intro q hq
    rcases p.token?_or_not_made seq with bound | ⟨-, fresh⟩
    · exact h q seq _ hq bound
    · exact absurd (known q _ hq) fresh
  intro q s t hq hs
  rw [token?_start] at hq hs
  split at hq <;> split at hs
  · next hq' hs' => exact hq'.trans hs'.symm
  · next hq' hs' =>
    cases hq
    exact absurd (other s hs) hs'
  · next hq' hs' =>
    cases hs
    exact absurd (other q hq) hq'
  · exact h q s t hq hs

theorem Separates.cancel (h : p.Separates) (seq : UInt64) : (p.cancel seq).2.Separates := by
  intro q s t hq hs
  rw [token?_cancel] at hq hs
  split at hq
  · cases hq
  · split at hs
    · cases hs
    · exact h q s t hq hs

/-- What is done with a table and with the handles that were handed out. A handle is named by its
place among them, the oldest first. -/
inductive Op where
  /-- Starts a number; the handle to its token is handed out. -/
  | start (seq : UInt64)
  /-- Cancels a number. -/
  | cancel (seq : UInt64)
  /-- Copies a handle; the copy is handed out. -/
  | clone (place : Nat)
  /-- Cancels the token behind a handle. -/
  | cancelToken (place : Nat)
  deriving DecidableEq, Repr

/-- The number that an operation on the table is about. -/
def Op.seq? : Op → Option UInt64
  | .start seq | .cancel seq => some seq
  | .clone _ | .cancelToken _ => none

end Pending

open Pending (Op)

/-! ## Holdings -/

/-- A table and the handles that were handed out. -/
structure Holdings where
  pending : Pending
  /-- The tokens behind the handles, oldest first. -/
  handles : List Token
  /-- Every cancellation of a token, oldest first: whether it found the token not canceled. -/
  told : List (Token × Bool)
  deriving DecidableEq, Repr

namespace Holdings

/-- An empty table, and no handles. -/
def empty : Holdings := ⟨.empty, [], []⟩

/-- The token behind the handle that an operation hands out. -/
def given? (x : Holdings) : Op → Option Token
  | .start seq => some (x.pending.start seq).1
  | .clone place => x.handles[place]?
  | .cancel _ | .cancelToken _ => none

/-- The token that an operation cancels. -/
def target? (x : Holdings) : Op → Option Token
  | .cancel seq => x.pending.token? seq
  | .cancelToken place => x.handles[place]?
  | .start _ | .clone _ => none

/-- The cancellation of a token that is part of an operation: the table cancels the token after the
number has been removed. -/
def told? (x : Holdings) : Op → Option (Token × Bool)
  | .cancel seq =>
    (x.pending.token? seq).map fun t => (t, ((x.pending.remove seq).2.2.cancelToken t).1)
  | .cancelToken place => x.handles[place]?.map fun t => (t, (x.pending.cancelToken t).1)
  | .start _ | .clone _ => none

/-- The table after an operation. -/
def pendingAfter (x : Holdings) : Op → Pending
  | .start seq => (x.pending.start seq).2.2
  | .cancel seq => (x.pending.cancel seq).2
  | .clone _ => x.pending
  | .cancelToken place =>
    match x.handles[place]? with
    | some t => (x.pending.cancelToken t).2
    | none => x.pending

/-- One operation. -/
def step (x : Holdings) (op : Op) : Holdings :=
  ⟨x.pendingAfter op, x.handles ++ (x.given? op).toList, x.told ++ (x.told? op).toList⟩

/-- Operations one after the other. -/
def run (x : Holdings) (ops : List Op) : Holdings := ops.foldl step x

/-- What a history makes of an empty table. -/
def after (ops : List Op) : Holdings := empty.run ops

variable {x : Holdings} {ops : List Op} {s q : UInt64} {t : Token}

/-- The token of a number. -/
def token? (x : Holdings) (seq : UInt64) : Option Token := x.pending.token? seq

/-- The token that a start gives. -/
def start (x : Holdings) (seq : UInt64) : Token := (x.pending.start seq).1

/-- Whether a token is canceled. -/
def isCanceled (x : Holdings) (t : Token) : Bool := x.pending.tokens.isCanceled t

/-- Whether a token was made. -/
def Made (x : Holdings) (t : Token) : Prop := x.pending.tokens.Made t

@[simp] theorem run_nil (x : Holdings) : x.run [] = x := rfl

@[simp] theorem run_cons (x : Holdings) (op : Op) (ops : List Op) :
    x.run (op :: ops) = (x.step op).run ops := rfl

theorem run_append (x : Holdings) (ops more : List Op) : x.run (ops ++ more) = (x.run ops).run more :=
  List.foldl_append

theorem after_append (ops more : List Op) : after (ops ++ more) = (after ops).run more :=
  run_append empty ops more

theorem after_start (before later : List Op) (seq : UInt64) :
    after (before ++ .start seq :: later) = ((after before).step (.start seq)).run later :=
  after_append before _

/-! ## What one operation does -/

/-- Canceling through a handle cancels the token behind it; without the handle nothing happens. -/
theorem cancelToken_cases (x : Holdings) (place : Nat) :
    (∃ t ∈ x.handles, x.target? (.cancelToken place) = some t ∧
      (x.step (.cancelToken place)).pending = (x.pending.cancelToken t).2) ∨
    x.target? (.cancelToken place) = none ∧ (x.step (.cancelToken place)).pending = x.pending := by
  simp only [target?, step, pendingAfter]
  cases found : x.handles[place]? with
  | some t => exact .inl ⟨t, List.mem_of_getElem? found, rfl, rfl⟩
  | none => exact .inr ⟨rfl, rfl⟩

theorem token?_step (x : Holdings) (op : Op) (q : UInt64) : (x.step op).token? q =
    match op with
    | .start seq => if q = seq then some (x.start seq) else x.token? q
    | .cancel seq => if q = seq then none else x.token? q
    | .clone _ | .cancelToken _ => x.token? q := by
  cases op with
  | start seq => exact x.pending.token?_start seq q
  | cancel seq => exact x.pending.token?_cancel seq q
  | clone place => rfl
  | cancelToken place =>
    dsimp only [token?]
    rcases x.cancelToken_cases place with ⟨t, -, -, heq⟩ | ⟨-, heq⟩
    · rw [heq]
      rfl
    · rw [heq]

theorem made_step (op : Op) (h : x.Made t) : (x.step op).Made t := by
  cases op with
  | start seq => exact x.pending.made_start seq h
  | cancel seq => exact (x.pending.made_cancel seq t).2 h
  | clone place => exact h
  | cancelToken place =>
    dsimp only [Made]
    rcases x.cancelToken_cases place with ⟨u, -, -, heq⟩ | ⟨-, heq⟩ <;> rw [heq]
    · exact (x.pending.made_cancelToken u t).2 h
    · exact h

/-- What holds of a table and its handles throughout. -/
structure Sound (x : Holdings) : Prop where
  known : x.pending.KnowsTokens
  made : ∀ t ∈ x.handles, x.Made t
  keys : x.pending.HasKeys
  separates : x.pending.Separates

/-- An operation cancels its target and no other token. -/
theorem Sound.isCanceled_step (h : x.Sound) (op : Op) (t : Token) :
    (x.step op).isCanceled t = (decide (x.target? op = some t) || x.isCanceled t) := by
  cases op with
  | start seq => exact x.pending.isCanceled_start seq t
  | cancel seq => exact h.known.isCanceled_cancel seq t
  | clone place => rfl
  | cancelToken place =>
    dsimp only [isCanceled]
    rcases x.cancelToken_cases place with ⟨u, held, target, heq⟩ | ⟨target, heq⟩ <;> rw [heq, target]
    · refine (Pending.isCanceled_cancelToken (h.made u held) t).trans ?_
      simp only [Option.some.injEq, eq_comm]
    · simp

theorem Sound.made_given? (h : x.Sound) {op : Op} (ht : x.given? op = some t) :
    (x.step op).Made t := by
  cases op with
  | start seq =>
    cases ht
    exact x.pending.made_fst_start seq fun t => h.known seq t
  | clone place => exact made_step _ (h.made t (List.mem_of_getElem? ht))
  | _ => cases ht

theorem Sound.step (h : x.Sound) (op : Op) : (x.step op).Sound where
  known := by
    intro q t ht
    rw [← token?, token?_step] at ht
    cases op with
    | start seq => exact h.known.start seq q t ((x.pending.token?_start seq q).trans ht)
    | cancel seq => exact h.known.cancel seq q t ((x.pending.token?_cancel seq q).trans ht)
    | _ => exact made_step _ (h.known q t ht)
  made := by
    intro t ht
    rcases List.mem_append.1 ht with old | new
    · exact made_step op (h.made t old)
    · exact h.made_given? (Option.mem_toList.1 new)
  keys := by
    cases op with
    | start seq => exact h.keys.start seq
    | cancel seq => exact h.keys.cancel seq
    | clone place => exact h.keys
    | cancelToken place =>
      rcases x.cancelToken_cases place with ⟨u, -, -, heq⟩ | ⟨-, heq⟩ <;> rw [heq] <;> exact h.keys
  separates := by
    cases op with
    | start seq => exact h.known.separates_start h.separates seq
    | cancel seq => exact h.separates.cancel seq
    | clone place => exact h.separates
    | cancelToken place =>
      intro q s t hq hs
      exact h.separates q s t ((token?_step x _ q).symm.trans hq) ((token?_step x _ s).symm.trans hs)

theorem Sound.run (h : x.Sound) (ops : List Op) : (x.run ops).Sound := by
  induction ops generalizing x with
  | nil => exact h
  | cons op ops ih => exact ih (h.step op)

theorem sound_empty : empty.Sound where
  known := fun _ _ h => nomatch h
  made := fun _ h => nomatch h
  keys := List.nodup_nil
  separates := fun _ _ _ h => nomatch h

theorem sound_after (ops : List Op) : (after ops).Sound := sound_empty.run ops

/-! ## What becomes of a token -/

theorem token?_start (x : Holdings) (seq : UInt64) :
    (x.step (.start seq)).token? seq = some (x.start seq) := by
  rw [token?_step]
  exact if_pos rfl

theorem start_of_token? (bound : x.token? s = some t) : x.start s = t := by
  rcases x.pending.token?_or_not_made s with same | ⟨free, -⟩
  · exact Option.some.inj (same.symm.trans bound)
  · exact nomatch free.symm.trans bound

/-- As long as its number is not canceled, a token is bound to it. -/
theorem token?_run (bound : x.token? s = some t) (kept : .cancel s ∉ ops) :
    (x.run ops).token? s = some t := by
  induction ops generalizing x with
  | nil => exact bound
  | cons op ops ih =>
    refine ih ?_ fun h => kept (List.mem_cons_of_mem _ h)
    rw [token?_step]
    cases op with
    | start q =>
      dsimp only
      split
      · next h =>
        subst h
        rw [start_of_token? bound]
      · exact bound
    | cancel q =>
      dsimp only
      rw [if_neg, bound]
      rintro rfl
      exact kept (List.mem_cons_self ..)
    | _ => exact bound

/-- The token was made, and is bound to no number. -/
def Gone (x : Holdings) (t : Token) : Prop := x.Made t ∧ ∀ q, x.token? q ≠ some t

theorem Gone.start_ne (h : x.Gone t) (seq : UInt64) : x.start seq ≠ t := by
  rintro rfl
  rcases x.pending.token?_or_not_made seq with bound | ⟨-, fresh⟩
  · exact h.2 seq bound
  · exact fresh h.1

/-- A token that is gone is bound to no number again. -/
theorem Gone.step (h : x.Gone t) (op : Op) : (x.step op).Gone t := by
  refine ⟨made_step op h.1, fun q hq => ?_⟩
  rw [token?_step] at hq
  cases op with
  | start seq =>
    dsimp only at hq
    split at hq
    · exact h.start_ne seq (Option.some.inj hq)
    · exact h.2 q hq
  | cancel seq =>
    dsimp only at hq
    split at hq
    · cases hq
    · exact h.2 q hq
  | _ => exact h.2 q hq

theorem Gone.run (h : x.Gone t) (ops : List Op) : (x.run ops).Gone t := by
  induction ops generalizing x with
  | nil => exact h
  | cons op ops ih => exact ih (h.step op)

theorem Sound.gone_cancel (h : x.Sound) (bound : x.token? s = some t) :
    (x.step (.cancel s)).Gone t := by
  refine ⟨made_step _ (h.known s t bound), fun q hq => ?_⟩
  rw [token?_step] at hq
  dsimp only at hq
  split at hq
  · cases hq
  · next hne => exact hne (h.separates q s t hq bound)

/-- Once its number was canceled, a token is gone. -/
theorem Sound.gone_run (h : x.Sound) (bound : x.token? s = some t) (canceled : .cancel s ∈ ops) :
    (x.run ops).Gone t := by
  obtain ⟨kept, rest, rfl, hkept⟩ := List.eq_append_cons_of_mem canceled
  rw [run_append, run_cons]
  exact ((h.run kept).gone_cancel (token?_run bound hkept)).run rest

/-- **Two starts give the same token exactly if they start one number that was not canceled between
them.** -/
theorem Sound.start_eq_iff (h : x.Sound) (between : List Op) (s q : UInt64) :
    ((x.step (.start s)).run between).start q = x.start s ↔ q = s ∧ .cancel s ∉ between := by
  have bound := x.token?_start s
  by_cases canceled : .cancel s ∈ between
  · have gone := (h.step _).gone_run bound canceled
    exact ⟨fun heq => absurd heq (gone.start_ne q), fun hq => absurd canceled hq.2⟩
  · have kept := token?_run bound canceled
    constructor
    · intro heq
      -- Started once more, the number `q` is bound to the token, as `s` is.
      have sound := ((h.step (.start s)).run between).step (.start q)
      have again := heq ▸ token?_start _ q
      have still : (((x.step (.start s)).run between).run [.start q]).token? s =
          some (x.start s) := token?_run kept (by simp)
      exact ⟨sound.separates q s _ again still, canceled⟩
    · rintro ⟨rfl, -⟩
      exact start_of_token? kept

/-! ## What can be read off a history -/

/-- The last operation of a history on a number in the table. -/
def lastOn (seq : UInt64) (ops : List Op) : Option Op := ops.reverse.find? (·.seq? = some seq)

/-- **A number is in the table exactly if it was started last.** -/
theorem contains_after_iff (ops : List Op) (seq : UInt64) :
    (after ops).pending.contains seq = true ↔ lastOn seq ops = some (.start seq) := by
  induction ops using List.reverseRecOn with
  | nil => exact iff_of_false (fun h => nomatch h) (fun h => nomatch h)
  | append_singleton ops op ih =>
    have htoken := (after ops).token?_step op seq
    unfold lastOn at ih ⊢
    change ((after _).token? seq).isSome = true ↔ _ at ih ⊢
    rw [after_append, run_cons, run_nil, htoken, List.reverse_append, List.reverse_singleton,
      List.singleton_append, List.find?_cons]
    cases op with
    | start q =>
      by_cases hq : seq = q
      · simp [hq, Pending.Op.seq?]
      · simpa [hq, Ne.symm hq, Pending.Op.seq?] using ih
    | cancel q =>
      by_cases hq : seq = q
      · simp [hq, Pending.Op.seq?]
      · simpa [hq, Ne.symm hq, Pending.Op.seq?] using ih
    | _ => simpa [Pending.Op.seq?] using ih

/-- Every handle was handed out by a start, or is a copy of one that was. -/
theorem exists_start_of_mem_handles (held : t ∈ (after ops).handles) : ∃ before seq later,
    ops = before ++ .start seq :: later ∧ (after before).start seq = t := by
  induction ops using List.reverseRecOn with
  | nil => cases held
  | append_singleton ops op ih =>
    have earlier (old : t ∈ (after ops).handles) : ∃ before seq later,
        ops ++ [op] = before ++ .start seq :: later ∧ (after before).start seq = t := by
      obtain ⟨before, seq, later, rfl, heq⟩ := ih old
      exact ⟨before, seq, later ++ [op], by simp, heq⟩
    rw [after_append] at held
    rcases List.mem_append.1 held with old | new
    · exact earlier old
    · have given := Option.mem_toList.1 new
      cases op with
      | start seq => exact ⟨ops, seq, [], rfl, Option.some.inj given⟩
      | clone place => exact earlier (List.mem_of_getElem? given)
      | _ => cases given

/-- The token is canceled through a handle in the course of a history. -/
def CanceledByHandle (ops : List Op) (t : Token) : Prop :=
  ∃ before place later, ops = before ++ .cancelToken place :: later ∧
    (after before).handles[place]? = some t

/-- A token is canceled if it was, or if an operation has canceled it since. -/
theorem Sound.isCanceled_run_iff (h : x.Sound) (ops : List Op) (t : Token) :
    (x.run ops).isCanceled t = true ↔ x.isCanceled t = true ∨
      ∃ before op later, ops = before ++ op :: later ∧ (x.run before).target? op = some t := by
  induction ops generalizing x with
  | nil => simp
  | cons op ops ih =>
    rw [run_cons, ih (h.step op), h.isCanceled_step, Bool.or_eq_true, decide_eq_true_iff]
    constructor
    · rintro ((target | old) | ⟨before, o, later, rfl, target⟩)
      · exact .inr ⟨[], op, ops, rfl, target⟩
      · exact .inl old
      · exact .inr ⟨op :: before, o, later, rfl, target⟩
    · rintro (old | ⟨before, o, later, heq, target⟩)
      · exact .inl (.inr old)
      · cases before with
        | nil =>
          cases heq
          exact .inl (.inl target)
        | cons p before =>
          cases heq
          exact .inr ⟨before, o, later, rfl, target⟩

/-- **A token is canceled exactly if somebody canceled it**, through a handle or by its number. -/
theorem isCanceled_after_iff (ops : List Op) (t : Token) : (after ops).isCanceled t = true ↔
    CanceledByHandle ops t ∨ ∃ before seq later, ops = before ++ .cancel seq :: later ∧
      (after before).token? seq = some t := by
  refine (sound_empty.isCanceled_run_iff ops t).trans ⟨?_, ?_⟩
  · rintro (h | ⟨before, op, later, rfl, target⟩)
    · cases h
    · cases op with
      | cancel seq => exact .inr ⟨before, seq, later, rfl, target⟩
      | cancelToken place => exact .inl ⟨before, place, later, rfl, target⟩
      | _ => cases target
  · rintro (⟨before, place, later, rfl, held⟩ | ⟨before, seq, later, rfl, bound⟩)
    · exact .inr ⟨before, _, later, rfl, held⟩
    · exact .inr ⟨before, _, later, rfl, bound⟩

/-- A token that a start gave is canceled by its number exactly if the number is canceled later. -/
theorem isCanceled_start_iff (before later : List Op) (seq : UInt64) :
    (after (before ++ .start seq :: later)).isCanceled ((after before).start seq) = true ↔
      CanceledByHandle (before ++ .start seq :: later) ((after before).start seq) ∨
        .cancel seq ∈ later := by
  have sound := sound_after before
  rw [isCanceled_after_iff]
  refine or_congr_right ⟨?_, ?_⟩
  · rintro ⟨b, q, a, heq, bound⟩
    rcases List.append_eq_append_iff.1 heq with ⟨between, rfl, hrest⟩ | ⟨between, rfl, hrest⟩
    · cases between with
      | nil => cases hrest
      | cons op between =>
        cases hrest
        -- The number is started anew for the same token, so it is the same number.
        rw [after_start] at bound
        obtain ⟨rfl, -⟩ := (sound.start_eq_iff between seq q).1 (start_of_token? bound)
        simp
    · cases between with
      | nil => cases hrest
      | cons op between =>
        cases hrest
        -- Canceled before that start, the token would have been gone.
        have gone := ((sound_after b).gone_cancel bound).run between
        rw [after_append b] at gone
        exact absurd rfl (gone.start_ne seq)
  · intro canceled
    obtain ⟨kept, rest, rfl, hkept⟩ := List.eq_append_cons_of_mem canceled
    refine ⟨before ++ .start seq :: kept, seq, rest, by simp, ?_⟩
    rw [after_start]
    exact token?_run (token?_start _ seq) hkept

/-! ## What the cancellations of a token tell -/

/-- What the cancellations of a token told, oldest first. -/
def answers (x : Holdings) (t : Token) : List Bool := (x.told.filter (·.1 = t)).map (·.2)

theorem told?_eq (x : Holdings) (op : Op) :
    x.told? op = (x.target? op).map fun t => (t, !x.isCanceled t) := by
  cases op with
  | cancel seq =>
    refine congrArg (fun f => (x.pending.token? seq).map f) (funext fun t => ?_)
    simp only [Pending.cancelToken, Tokens.fst_cancel, Pending.tokens_remove]
    rfl
  | _ => rfl

theorem answers_step (x : Holdings) (op : Op) (t : Token) : (x.step op).answers t =
    x.answers t ++ if x.target? op = some t then [!x.isCanceled t] else [] := by
  unfold answers step
  rw [told?_eq, List.filter_append, List.map_append]
  cases x.target? op with
  | none => simp
  | some u =>
    by_cases hu : u = t
    · simp [hu]
    · simp [hu]

/-- Of all cancellations of a token the first one tells that it was not canceled before, and it
alone. -/
def ToldOnce (x : Holdings) (t : Token) : Prop :=
  x.isCanceled t = false ∧ x.answers t = [] ∨
    x.isCanceled t = true ∧ ∃ more, x.answers t = true :: List.replicate more false

theorem Sound.toldOnce_step (h : x.Sound) (told : x.ToldOnce t) (op : Op) :
    (x.step op).ToldOnce t := by
  unfold ToldOnce at told ⊢
  rw [h.isCanceled_step, answers_step]
  by_cases target : x.target? op = some t
  · rcases told with ⟨live, none⟩ | ⟨canceled, more, some⟩
    · exact .inr ⟨by simp [target], 0, by simp [target, live, none]⟩
    · refine .inr ⟨by simp [target], more + 1, ?_⟩
      rw [some, canceled, if_pos target, List.replicate_succ']
      rfl
  · simpa [target] using told

theorem toldOnce_after (ops : List Op) (t : Token) : (after ops).ToldOnce t := by
  induction ops using List.reverseRecOn with
  | nil => exact .inl ⟨rfl, rfl⟩
  | append_singleton ops op ih =>
    rw [after_append]
    exact (sound_after ops).toldOnce_step ih op

/-! ## All of it -/

/-- Canceling a number that is not in the table changes nothing. -/
theorem step_cancel_of_free (free : x.token? s = none) : x.step (.cancel s) = x := by
  have same : (x.pending.cancel s).2 = x.pending := by
    rw [Pending.cancel_eq, show x.pending.token? s = none from free]
  have untold : x.told? (.cancel s) = none := by
    rw [told?_eq, show x.target? (.cancel s) = none from free]
    rfl
  change (⟨(x.pending.cancel s).2, x.handles ++ [], x.told ++ (x.told? (.cancel s)).toList⟩ :
    Holdings) = x
  rw [same, untold]
  simp

/-- **A table follows its history.** Two starts give the same token exactly if they start one number
that was not canceled between them. A token that a start gave is canceled exactly if it was canceled
through a handle, or the number later. All handles come from starts. A number is in the table exactly
if its last operation there was a start, and the size of the table counts these numbers. Of all
cancellations of a token, through whatever handle, the first alone tells that it was not canceled
before. A canceled token stays canceled, and canceling a number that is not in the table changes
nothing. -/
theorem follow_history :
    (∀ before between seq q,
      (after (before ++ .start seq :: between)).start q = (after before).start seq ↔
        q = seq ∧ .cancel seq ∉ between) ∧
    (∀ before later seq,
      (after (before ++ .start seq :: later)).isCanceled ((after before).start seq) = true ↔
        CanceledByHandle (before ++ .start seq :: later) ((after before).start seq) ∨
          .cancel seq ∈ later) ∧
    ∀ ops : List Op,
      (∀ t ∈ (after ops).handles, ∃ before seq later,
        ops = before ++ .start seq :: later ∧ (after before).start seq = t) ∧
      (∀ seq, (after ops).pending.contains seq = true ↔ lastOn seq ops = some (.start seq)) ∧
      (after ops).pending.size = {seq | lastOn seq ops = some (.start seq)}.ncard ∧
      (∀ t, (after ops).ToldOnce t) ∧
      (∀ t more, (after ops).isCanceled t = true → (after (ops ++ more)).isCanceled t = true) ∧
      ∀ seq, (after ops).pending.contains seq = false → after (ops ++ [.cancel seq]) = after ops := by
  refine ⟨?_, isCanceled_start_iff, fun ops => ⟨fun t => exists_start_of_mem_handles,
    contains_after_iff ops, ?_, toldOnce_after ops, ?_, ?_⟩⟩
  · intro before between seq q
    rw [after_start]
    exact (sound_after before).start_eq_iff between seq q
  · rw [(sound_after ops).keys.size_eq]
    exact congrArg Set.ncard (Set.ext fun seq => contains_after_iff ops seq)
  · intro t more canceled
    rw [after_append]
    exact ((sound_after ops).isCanceled_run_iff more t).2 (.inl canceled)
  · intro seq free
    rw [after_append]
    exact step_cancel_of_free (Option.not_isSome_iff_eq_none.1 (Bool.eq_false_iff.1 free))

/-- A number is started, a copy of its handle canceled, then the number, and it is started anew; then
a number is canceled that is not there. The first token is canceled twice and stays so, and the second
is another one. -/
theorem follow_history_restarted :
    (after [.start 7, .clone 0, .cancelToken 1, .cancel 7]).start 7 ≠ (after []).start 7 ∧
    (∃ before seq later, [.start 7, .clone 0, .cancelToken 1] = before ++ .start seq :: later ∧
      (after before).start seq = ⟨0⟩) ∧
    (after [.start 7, .clone 0, .cancelToken 1, .cancel 7, .start 7]).isCanceled ⟨0⟩ = true ∧
    (after [.start 7, .clone 0, .cancelToken 1, .cancel 7]).answers ⟨0⟩ = [true, false] ∧
    after [.start 7, .clone 0, .cancelToken 1, .cancel 7, .start 7, .cancel 8] =
      after [.start 7, .clone 0, .cancelToken 1, .cancel 7, .start 7] := by
  obtain ⟨gives, -, rest⟩ := follow_history
  obtain ⟨started, -, -, -, stays, -⟩ := rest [.start 7, .clone 0, .cancelToken 1]
  obtain ⟨-, -, -, -, -, unknown⟩ := rest [.start 7, .clone 0, .cancelToken 1, .cancel 7, .start 7]
  refine ⟨?_, started ⟨0⟩ (by decide), stays ⟨0⟩ [.cancel 7, .start 7] (by decide), by decide,
    unknown 8 (by decide)⟩
  intro same
  have kept := ((gives [] [.clone 0, .cancelToken 1, .cancel 7] 7 7).1 same).2
  exact absurd kept (by decide)

end Holdings

end Switchboard
