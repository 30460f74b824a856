import Mathlib.Logic.Relation
import Switchboard.Proofs.Reaching

/-!
# Who gets a name

Receivers are registered with one server by any number of callers at once. Each builds its service by
itself. Only then does it look for the name on the server and, if the name is free, bind it; nobody
comes between the looking and the binding, but anybody may come between that and the building.

* `Server.attempt` is one registration, and `Server.attempts` a sequence of them.
* `Registry` is a server with its callers, each as far as it has come.

Results:

* `Registry.Reaches.attempts`: however the callers overlap, the server and what they are told come of
  a sequence of registrations.
* `Server.NamedBy.attempt`: what a server knows after a sequence is what was registered with success.
* `Server.service?_attempts`: a name stays with the service it was given to.
* `Server.names_kept`: the names of a server, over all sequences and all ways to overlap.
-/

namespace Switchboard

variable {ι σ κ : Type} [MessageFamily ι]

/-! ## Registrations -/

/-- A call to register a receiver, under its declared name or a given one. -/
structure Registration (ι σ κ : Type) [MessageFamily ι] where
  receiver : Receiver ι σ κ
  name? : Option String

namespace Registration

/-- The name the call asks for. -/
def name (g : Registration ι σ κ) : String := g.name?.getD g.receiver.declaredName

/-- The service the caller builds, or why it cannot. -/
def build (config : ServerConfig) (g : Registration ι σ κ) :
    Except RegisterError (Service ι σ κ) :=
  (Service.build g.receiver g.name? config.reportInvalidMethods).2

theorem name_of_build {config : ServerConfig} {g : Registration ι σ κ} {service : Service ι σ κ}
    (h : g.build config = .ok service) : service.name = g.name :=
  (Service.comesFrom_of_build h).name

end Registration

/-- A registration and what its caller is told. -/
abbrev Told (ι σ κ : Type) [MessageFamily ι] : Type :=
  Registration ι σ κ × Except RegisterError Unit

namespace Server

/-! ## One after the other -/

/-- What the caller is told, and the server it leaves behind. -/
def settle (s : Server ι σ κ) :
    Except RegisterError (Server ι σ κ) → Except RegisterError Unit × Server ι σ κ
  | .ok s' => (.ok (), s')
  | .error e => (.error e, s)

/-- One registration. -/
def attempt (s : Server ι σ κ) (g : Registration ι σ κ) : Except RegisterError Unit × Server ι σ κ :=
  s.settle (s.register g.receiver g.name?).2

/-- Registrations one after the other. -/
def attempts (s : Server ι σ κ) : List (Registration ι σ κ) → List (Told ι σ κ) × Server ι σ κ
  | [] => ([], s)
  | g :: gs =>
    ((g, (s.attempt g).1) :: ((s.attempt g).2.attempts gs).1, ((s.attempt g).2.attempts gs).2)

variable {s : Server ι σ κ} {g : Registration ι σ κ} {name : String} {service : Service ι σ κ}
  {config : ServerConfig} {told : List (Told ι σ κ)}

theorem attempt_of_error {e : RegisterError} (h : g.build s.config = .error e) :
    s.attempt g = (.error e, s) := by
  unfold Registration.build at h
  rw [attempt, register_eq, h]
  rfl

theorem attempt_of_ok (h : g.build s.config = .ok service) :
    s.attempt g = s.settle (s.bindIfFree service) := by
  unfold Registration.build at h
  rw [attempt, register_eq, h]
  rfl

/-- An application that registers a receiver while its server is at work does so by this. -/
theorem attempt_eq_register (x : Exchange ι σ κ) (g : Registration ι σ κ) :
    x.station.server.attempt g = ((x.register g.receiver g.name?).1,
      (x.register g.receiver g.name?).2.station.server) := by
  unfold attempt Exchange.register
  split
  · next h => rw [h]; rfl
  · next h => rw [h]; rfl

/-- The ways a registration can go: no service is built, or its name is taken, or it is bound. -/
theorem attempt_cases (s : Server ι σ κ) (g : Registration ι σ κ) :
    (∃ e, g.build s.config = .error e ∧ s.attempt g = (.error e, s)) ∨
    (∃ service, g.build s.config = .ok service ∧ (s.service? g.name).isSome = true ∧
      s.attempt g = (.error (.alreadyDefined g.name), s)) ∨
    ∃ service, g.build s.config = .ok service ∧ s.service? g.name = none ∧
      s.attempt g = (.ok (), s.bind service) := by
  cases hbuild : g.build s.config with
  | error e => exact .inl ⟨e, rfl, attempt_of_error hbuild⟩
  | ok service =>
    have hattempt := attempt_of_ok hbuild
    have hname := Registration.name_of_build hbuild
    unfold bindIfFree at hattempt
    rw [hname] at hattempt
    cases hbound : s.service? g.name with
    | some other =>
      refine .inr (.inl ⟨service, rfl, rfl, ?_⟩)
      rw [hattempt, hbound]
      rfl
    | none =>
      refine .inr (.inr ⟨service, rfl, rfl, ?_⟩)
      rw [hattempt, hbound]
      rfl

/-- A registration that fails leaves the server as it was. -/
theorem attempt_of_failed {e : RegisterError} (h : (s.attempt g).1 = .error e) :
    (s.attempt g).2 = s := by
  rcases s.attempt_cases g with ⟨_, -, heq⟩ | ⟨_, -, -, heq⟩ | ⟨_, -, -, heq⟩
  · rw [heq]
  · rw [heq]
  · rw [heq] at h
    cases h

theorem config_attempt (s : Server ι σ κ) (g : Registration ι σ κ) :
    (s.attempt g).2.config = s.config := by
  rcases s.attempt_cases g with ⟨_, -, heq⟩ | ⟨_, -, -, heq⟩ | ⟨_, -, -, heq⟩ <;> rw [heq]
  rfl

@[simp] theorem attempts_nil (s : Server ι σ κ) : s.attempts [] = ([], s) := rfl

@[simp] theorem attempts_cons (s : Server ι σ κ) (g : Registration ι σ κ)
    (gs : List (Registration ι σ κ)) :
    s.attempts (g :: gs) = ((g, (s.attempt g).1) :: ((s.attempt g).2.attempts gs).1,
      ((s.attempt g).2.attempts gs).2) := rfl

/-- More registrations go on from what the first have left. -/
theorem attempts_append (s : Server ι σ κ) (gs more : List (Registration ι σ κ)) :
    s.attempts (gs ++ more) = ((s.attempts gs).1 ++ ((s.attempts gs).2.attempts more).1,
      ((s.attempts gs).2.attempts more).2) := by
  induction gs generalizing s with
  | nil => rfl
  | cons g gs ih => simp [ih]

theorem config_attempts (s : Server ι σ κ) (gs : List (Registration ι σ κ)) :
    (s.attempts gs).2.config = s.config := by
  induction gs generalizing s with
  | nil => rfl
  | cons g gs ih => rw [attempts_cons, ih, config_attempt]

/-! ### A name that is bound -/

/-- A registration leaves the bound names with their services. -/
theorem service?_attempt (bound : s.service? name = some service) (g : Registration ι σ κ) :
    (s.attempt g).2.service? name = some service := by
  rcases s.attempt_cases g with ⟨_, -, heq⟩ | ⟨_, -, -, heq⟩ | ⟨added, -, -, heq⟩
  · rwa [heq]
  · rwa [heq]
  · rw [heq, s.service?_bind, bound, Option.some_or]

/-- A registration under a bound name fails, and if it has built its service, for that reason. -/
theorem attempt_of_bound (bound : s.service? name = some service) (h : g.name = name) :
    (∃ e, (s.attempt g).1 = .error e) ∧
      ∀ built, g.build s.config = .ok built → (s.attempt g).1 = .error (.alreadyDefined name) := by
  subst h
  rcases s.attempt_cases g with ⟨e, hbuild, heq⟩ | ⟨_, -, -, heq⟩ | ⟨_, -, free, -⟩
  · refine ⟨⟨e, by rw [heq]⟩, fun built h => ?_⟩
    rw [hbuild] at h
    cases h
  · exact ⟨⟨_, by rw [heq]⟩, fun _ _ => by rw [heq]⟩
  · rw [bound] at free
    cases free

/-- **A name stays with the service it was given to**, and whoever asks for it afterwards fails. -/
theorem service?_attempts (bound : s.service? name = some service)
    (gs : List (Registration ι σ κ)) : (s.attempts gs).2.service? name = some service ∧
      ∀ g answer, (g, answer) ∈ (s.attempts gs).1 → g.name = name → (∃ e, answer = .error e) ∧
        ∀ built, g.build s.config = .ok built → answer = .error (.alreadyDefined name) := by
  induction gs generalizing s with
  | nil => exact ⟨bound, by simp⟩
  | cons first gs ih =>
    obtain ⟨kept, later⟩ := ih (service?_attempt bound first)
    rw [config_attempt] at later
    refine ⟨kept, ?_⟩
    intro g answer hmem hname
    rcases List.mem_cons.1 hmem with here | there
    · cases here
      exact attempt_of_bound bound hname
    · exact later g answer there hname

/-! ### What was registered with success -/

section NamedBy

variable [Inhabited σ]

/-- What the server knows is what was registered with success, and the cancellation service if it
was set up with it. -/
structure NamedBy (config : ServerConfig) (told : List (Told ι σ κ)) (s : Server ι σ κ) : Prop where
  built : s.Built config
  configured : s.config = config
  builds : ∀ g, (g, .ok ()) ∈ told → ∃ service, g.build config = .ok service
  service?_iff : ∀ name service, s.service? name = some service ↔
    (config.registerCancelService = true ∧ name = CancelService.name ∧
      service = CancelService.service default) ∨
    ∃ g, (g, .ok ()) ∈ told ∧ g.name = name ∧ g.build config = .ok service

theorem namedBy_new (config : ServerConfig) :
    (Server.new config : List Event × Server ι σ κ).2.NamedBy config [] where
  built := .new
  configured := by rw [new_eq]
  builds g hmem := by cases hmem
  service?_iff name service := by
    rw [new_eq]
    cases config.registerCancelService with
    | false => simp [service?]
    | true =>
      have hname : (CancelService.service default : Service ι σ κ).name = CancelService.name := rfl
      by_cases h : name = CancelService.name <;> simp [service?, hname, h, eq_comm]

theorem Built.attempt (built : s.Built config) (g : Registration ι σ κ) :
    (s.attempt g).2.Built config := by
  unfold Server.attempt
  cases h : (s.register g.receiver g.name?).2 with
  | ok s' => exact .register _ _ built h
  | error e => exact built

/-- A registration that fails makes nothing known. -/
theorem NamedBy.failed (h : s.NamedBy config told) (g : Registration ι σ κ) (e : RegisterError) :
    s.NamedBy config (told ++ [(g, .error e)]) where
  built := h.built
  configured := h.configured
  builds g' hmem := h.builds g' (by simpa using hmem)
  service?_iff name service := by simp [h.service?_iff]

/-- A registration that succeeds makes known what it has built. -/
theorem NamedBy.succeeded (h : s.NamedBy config told) (hbuild : g.build config = .ok service)
    (free : s.service? g.name = none) (built : (s.bind service).Built config) :
    (s.bind service).NamedBy config (told ++ [(g, .ok ())]) where
  built := built
  configured := h.configured
  builds g' hmem := by
    rcases List.mem_append.1 hmem with old | new
    · exact h.builds g' old
    · cases List.mem_singleton.1 new
      exact ⟨service, hbuild⟩
  service?_iff name found := by
    rw [s.service?_bind, Registration.name_of_build hbuild]
    constructor
    · intro hfound
      rcases Option.or_eq_some_iff.1 hfound with old | ⟨-, new⟩
      · rcases (h.service?_iff name found).1 old with reserved | ⟨g', hmem, rest⟩
        · exact .inl reserved
        · exact .inr ⟨g', List.mem_append_left _ hmem, rest⟩
      · split at new
        · next hname =>
          cases new
          exact .inr ⟨g, List.mem_append_right _ (List.mem_singleton_self _), hname, hbuild⟩
        · cases new
    · rintro (reserved | ⟨g', hmem, hname, hbuild'⟩)
      · rw [(h.service?_iff name found).2 (.inl reserved), Option.some_or]
      · rcases List.mem_append.1 hmem with old | new
        · rw [(h.service?_iff name found).2 (.inr ⟨g', old, hname, hbuild'⟩), Option.some_or]
        · cases List.mem_singleton.1 new
          rw [hbuild] at hbuild'
          cases hbuild'
          rw [← hname, free, Option.none_or, if_pos rfl]

/-- After a registration what was known is known, and what it has bound. -/
theorem NamedBy.attempt (h : s.NamedBy config told) (g : Registration ι σ κ) :
    (s.attempt g).2.NamedBy config (told ++ [(g, (s.attempt g).1)]) := by
  have built := h.built.attempt g
  rcases s.attempt_cases g with ⟨e, -, heq⟩ | ⟨_, -, -, heq⟩ | ⟨added, hbuild, free, heq⟩
  · rw [heq]
    exact h.failed g e
  · rw [heq]
    exact h.failed g _
  · rw [heq] at built ⊢
    exact h.succeeded (h.configured ▸ hbuild) free built

/-- The names are those of the registrations that succeeded, and the reserved one. -/
theorem NamedBy.isSome_service?_iff (h : s.NamedBy config told) (name : String) :
    (s.service? name).isSome = true ↔
      (config.registerCancelService = true ∧ name = CancelService.name) ∨
      ∃ g, (g, .ok ()) ∈ told ∧ g.name = name := by
  simp only [Option.isSome_iff_exists, h.service?_iff]
  constructor
  · rintro ⟨service, ⟨set, reserved, -⟩ | ⟨g, hmem, hname, -⟩⟩
    · exact .inl ⟨set, reserved⟩
    · exact .inr ⟨g, hmem, hname⟩
  · rintro (⟨set, reserved⟩ | ⟨g, hmem, hname⟩)
    · exact ⟨_, .inl ⟨set, reserved, rfl⟩⟩
    · obtain ⟨service, hbuild⟩ := h.builds g hmem
      exact ⟨service, .inr ⟨g, hmem, hname, hbuild⟩⟩

theorem NamedBy.attempts (h : s.NamedBy config told) (gs : List (Registration ι σ κ)) :
    (s.attempts gs).2.NamedBy config (told ++ (s.attempts gs).1) := by
  induction gs generalizing s told with
  | nil => simpa using h
  | cons g gs ih => simpa using ih (h.attempt g)

/-! ### What a name leads to -/

/-- A service of a server has a name and methods, and the methods' names are exported. -/
theorem Built.wellNamed (built : s.Built config) (held : service ∈ s.services) :
    service.name ≠ "" ∧ service.catalog.names ≠ [] ∧
      ∀ name ∈ service.catalog.names,
        ∃ first rest, name.toList = first :: rest ∧ Text.isUpper first = true := by
  obtain ⟨receiver, name?, report, hbuild⟩ := built.exists_build held
  obtain ⟨hname, hsize, heq⟩ := Service.build_eq_ok_iff.1 hbuild
  have hcatalog : service.catalog = .ofCandidates receiver.candidates := by rw [heq]
  refine ⟨(Receiver.nameFor_eq_ok_iff.1 hname).2.1, ?_, ?_⟩
  · intro hempty
    rw [← hcatalog, Ne, Catalog.size_eq_zero_iff, hempty] at hsize
    exact hsize (by simp)
  · intro name hmem
    rw [hcatalog] at hmem
    obtain ⟨c, -, rfl, i, served⟩ := Catalog.mem_names_ofCandidates_iff.1 hmem
    exact served.uppercase

omit [Inhabited σ] in
theorem mem_names_iff : name ∈ s.names ↔ (s.service? name).isSome = true := by
  simp [names, service?, List.find?_isSome]

/-- The names are told in ascending order, each once. -/
theorem Built.ascending_names (built : s.Built config) : s.names.Pairwise (· < ·) := by
  have sorted : s.names.Pairwise fun a b => decide (a ≤ b) = true :=
    List.pairwise_mergeSort (by simpa using fun a b c => String.le_trans)
      (by simpa using String.le_total) _
  have distinct : s.names.Nodup := (List.mergeSort_perm _ _).nodup_iff.2 built.nodup_names
  refine (sorted.and distinct).imp ?_
  rintro a b ⟨hle, hne⟩
  exact Std.lt_of_le_of_ne (of_decide_eq_true hle) hne

end NamedBy

end Server

/-! ## All at once -/

/-- How far a caller has come. -/
inductive Registrar (ι σ κ : Type) [MessageFamily ι] where
  /-- The call has begun. -/
  | asked (g : Registration ι σ κ)
  /-- The service is built, and its name is still to be looked for. -/
  | holding (g : Registration ι σ κ) (service : Service ι σ κ)
  | told (g : Registration ι σ κ) (answer : Except RegisterError Unit)

/-- A server and those who register with it. -/
structure Registry (ι σ κ : Type) [MessageFamily ι] where
  server : Server ι σ κ
  registrars : List (Registrar ι σ κ)

/-- What the caller was told, if the call is over. -/
def Registrar.told? : Registrar ι σ κ → Option (Told ι σ κ)
  | .told g answer => some (g, answer)
  | _ => none

namespace Registry

/-- A new server, with nobody there. -/
def new [Inhabited σ] (config : ServerConfig) : Registry ι σ κ := ⟨(Server.new config).2, []⟩

/-- What the callers were told. -/
def told (x : Registry ι σ κ) : List (Told ι σ κ) := x.registrars.filterMap Registrar.told?

/-- One caller goes on: it begins a call, or builds its service or fails to, or looks for the name
and binds it if it is free. -/
inductive Next : Registry ι σ κ → Registry ι σ κ → Prop where
  | ask (s : Server ι σ κ) (all : List (Registrar ι σ κ)) (g : Registration ι σ κ) :
    Next ⟨s, all⟩ ⟨s, all ++ [.asked g]⟩
  | build {s : Server ι σ κ} {g : Registration ι σ κ} {service : Service ι σ κ}
    (before after : List (Registrar ι σ κ)) (h : g.build s.config = .ok service) :
    Next ⟨s, before ++ .asked g :: after⟩ ⟨s, before ++ .holding g service :: after⟩
  | refuse {s : Server ι σ κ} {g : Registration ι σ κ} {e : RegisterError}
    (before after : List (Registrar ι σ κ)) (h : g.build s.config = .error e) :
    Next ⟨s, before ++ .asked g :: after⟩ ⟨s, before ++ .told g (.error e) :: after⟩
  | bind (s : Server ι σ κ) (before after : List (Registrar ι σ κ)) (g : Registration ι σ κ)
    (service : Service ι σ κ) :
    Next ⟨s, before ++ .holding g service :: after⟩
      ⟨(s.settle (s.bindIfFree service)).2,
        before ++ .told g (s.settle (s.bindIfFree service)).1 :: after⟩

/-- The callers may go on in this way. -/
abbrev Reaches (x x' : Registry ι σ κ) : Prop := Relation.ReflTransGen Next x x'

/-- Whoever holds a service has built it. -/
def Sound (x : Registry ι σ κ) : Prop :=
  ∀ g service, .holding g service ∈ x.registrars → g.build x.server.config = .ok service

variable {x x' : Registry ι σ κ} {before after : List (Registrar ι σ κ)}

/-- A caller that is not told anything yet adds nothing to what the callers were told. -/
theorem filterMap_told?_of_none {r : Registrar ι σ κ} (h : r.told? = none) :
    (before ++ r :: after).filterMap Registrar.told? =
      (before ++ after).filterMap Registrar.told? := by
  rw [List.filterMap_append, List.filterMap_cons_none h, List.filterMap_append]

/-- A caller that is told something adds that, in its place. -/
theorem filterMap_told?_of_some {r : Registrar ι σ κ} {t : Told ι σ κ} (h : r.told? = some t) :
    ((before ++ r :: after).filterMap Registrar.told?).Perm
      ((before ++ after).filterMap Registrar.told? ++ [t]) := by
  rw [List.filterMap_append, List.filterMap_cons_some h, List.filterMap_append]
  exact List.perm_middle.trans (List.perm_append_singleton _ _).symm

/-- What one caller does is a registration, or comes before one. -/
theorem Next.attempts (h : Next x x') (sound : x.Sound) : ∃ gs : List (Registration ι σ κ),
    x'.server = (x.server.attempts gs).2 ∧ x'.told.Perm (x.told ++ (x.server.attempts gs).1) := by
  unfold told
  cases h with
  | ask s all g =>
    refine ⟨[], rfl, ?_⟩
    rw [filterMap_told?_of_none rfl]
    simp
  | build before after h =>
    refine ⟨[], rfl, ?_⟩
    rw [filterMap_told?_of_none rfl, filterMap_told?_of_none rfl]
    simp
  | @refuse s g e before after h =>
    refine ⟨[g], by simp [Server.attempt_of_error h], ?_⟩
    rw [filterMap_told?_of_none (r := .asked g) rfl, Server.attempts_cons, Server.attempt_of_error h]
    exact filterMap_told?_of_some rfl
  | bind s before after g service =>
    have hattempt := Server.attempt_of_ok (sound g service (by simp))
    refine ⟨[g], by simp [hattempt], ?_⟩
    rw [filterMap_told?_of_none (r := .holding g service) rfl, Server.attempts_cons, hattempt]
    exact filterMap_told?_of_some rfl

theorem Next.config_eq (h : Next x x') (sound : x.Sound) : x'.server.config = x.server.config := by
  obtain ⟨gs, heq, -⟩ := h.attempts sound
  rw [heq, Server.config_attempts]

theorem Next.sound (h : Next x x') (sound : x.Sound) : x'.Sound := by
  intro g service hmem
  rw [h.config_eq sound]
  cases h with
  | build before after h =>
    rcases List.mem_append.1 hmem with old | new
    · exact sound g service (List.mem_append_left _ old)
    · rcases List.mem_cons.1 new with here | old
      · cases here
        exact h
      · exact sound g service (by simp [old])
  | _ =>
    -- Nobody holds a service who did not before.
    refine sound g service ?_
    simp only [List.mem_append, List.mem_cons, reduceCtorEq, false_or] at hmem ⊢
    tauto

theorem Reaches.sound (h : x.Reaches x') (sound : x.Sound) : x'.Sound := by
  induction h with
  | refl => exact sound
  | tail _ h ih => exact h.sound ih

/-- **However the callers overlap, it comes to registrations one after the other**: for the server,
and for what the callers are told. -/
theorem Reaches.attempts (h : x.Reaches x') (sound : x.Sound) : ∃ gs : List (Registration ι σ κ),
    x'.server = (x.server.attempts gs).2 ∧ x'.told.Perm (x.told ++ (x.server.attempts gs).1) := by
  induction h with
  | refl => exact ⟨[], rfl, by simp⟩
  | tail before h ih =>
    obtain ⟨gs, hserver, htold⟩ := ih
    obtain ⟨more, hserver', htold'⟩ := h.attempts (Reaches.sound before sound)
    refine ⟨gs ++ more, ?_, ?_⟩
    · rw [Server.attempts_append, hserver', hserver]
    · rw [Server.attempts_append, ← List.append_assoc]
      rw [hserver] at htold'
      exact htold'.trans (htold.append_right _)

theorem sound_new [Inhabited σ] (config : ServerConfig) :
    (Registry.new config : Registry ι σ κ).Sound := by
  intro g service hmem
  cases hmem

end Registry

/-! ## The names of a server -/

/-- **Who has a name.** However callers overlap, it comes to registrations one after the other. After
any of these the names are those of the registrations that succeeded, each leading to what that
registration built, and the reserved one if the server was set up with the cancellation service.
A service is found under its own name, which is not empty; it has methods, and their names begin
with an uppercase character. The names are told in ascending order. A registration that fails
changes nothing, and a name that is bound stays as it is: whoever asks for it fails, for that reason
if not for another. -/
theorem Server.names_kept [Inhabited σ] (config : ServerConfig) :
    (∀ x x' : Registry ι σ κ, (Registry.new config).Reaches x → x.Reaches x' →
      ∃ gs, x'.server = (x.server.attempts gs).2 ∧
        x'.told.Perm (x.told ++ (x.server.attempts gs).1)) ∧
    ∀ (gs : List (Registration ι σ κ)) (told : List (Told ι σ κ)) (s : Server ι σ κ),
      (Server.new config).2.attempts gs = (told, s) →
      (∀ name service, s.service? name = some service ↔
        (config.registerCancelService = true ∧ name = CancelService.name ∧
          service = CancelService.service default) ∨
        ∃ g, (g, .ok ()) ∈ told ∧ g.name = name ∧ g.build config = .ok service) ∧
      (∀ name, name ∈ s.names ↔
        (config.registerCancelService = true ∧ name = CancelService.name) ∨
        ∃ g, (g, .ok ()) ∈ told ∧ g.name = name) ∧
      s.names.Pairwise (· < ·) ∧
      (∀ name service, s.service? name = some service →
        service.name = name ∧ name ≠ "" ∧ service.catalog.names ≠ [] ∧
          ∀ method ∈ service.catalog.names,
            ∃ first rest, method.toList = first :: rest ∧ Text.isUpper first = true) ∧
      (∀ g e, (s.attempt g).1 = .error e → (s.attempt g).2 = s) ∧
      ∀ name service, s.service? name = some service → ∀ more,
        (s.attempts more).2.service? name = some service ∧
          ∀ g answer, (g, answer) ∈ (s.attempts more).1 → g.name = name →
            (∃ e, answer = .error e) ∧
              ∀ built, g.build config = .ok built → answer = .error (.alreadyDefined name) := by
  constructor
  · intro x x' hx h
    exact Registry.Reaches.attempts h (Registry.Reaches.sound hx (Registry.sound_new config))
  · intro gs told s hrun
    have named : s.NamedBy config told := by
      simpa [hrun] using (namedBy_new config).attempts gs
    refine ⟨named.service?_iff, ?_, named.built.ascending_names, ?_, ?_, ?_⟩
    · intro name
      rw [mem_names_iff, named.isSome_service?_iff]
    · intro name service found
      obtain rfl := name_of_service? found
      exact ⟨rfl, named.built.wellNamed (List.mem_of_find?_eq_some found)⟩
    · intro g e h
      exact attempt_of_failed h
    · intro name service bound more
      have kept := service?_attempts bound more
      rwa [named.configured] at kept

/-- A receiver that is registered under the name of its type. -/
def Registration.math : Registration Empty Unit Empty := ⟨.dotted, none⟩

/-- Registered twice, it succeeds and then finds its name taken. -/
theorem Server.names_kept_twice : ∃ s, Server.bare.attempts [.math, .math] =
      ([(.math, .ok ()), (.math, .error (.alreadyDefined "Math"))], s) ∧
    "Math" ∈ s.names ∧ "_goRPC_" ∈ s.names := by
  have configured : Server.bare.config = {} := (namedBy_new {}).configured
  obtain ⟨service, hbuild⟩ : ∃ service, Registration.math.build {} = .ok service := by
    have built : (Registration.math.build {}).toOption.isSome = true := by decide +kernel
    cases h : Registration.math.build {} with
    | ok service => exact ⟨service, rfl⟩
    | error e =>
      rw [h] at built
      cases built
  have hname : Registration.math.name = "Math" := by decide +kernel
  have free : (Server.bare.service? "Math").isNone = true := by decide +kernel
  have first : Server.bare.attempt .math = (.ok (), Server.bare.bind service) := by
    rw [attempt_of_ok (configured ▸ hbuild), bindIfFree_eq_ok_iff.2 ⟨?_, rfl⟩]
    · rfl
    · rwa [Registration.name_of_build hbuild, hname, ← Option.isNone_iff_eq_none]
  obtain ⟨-, kept⟩ := names_kept (ι := Empty) (σ := Unit) (κ := Empty) {}
  have once : Server.bare.attempts [.math] = ([(.math, .ok ())], Server.bare.bind service) := by
    rw [attempts_cons, first, attempts_nil]
  obtain ⟨leads, names, -, -, unchanged, taken⟩ := kept [.math] _ _ once
  have second : ((Server.bare.bind service).attempt .math).1 =
      .error (.alreadyDefined "Math") := by
    have bound := (leads "Math" service).2 (.inr ⟨_, List.mem_singleton_self _, hname, hbuild⟩)
    exact ((taken "Math" service bound [.math]).2 .math _ (List.mem_singleton_self _) hname).2
      service hbuild
  refine ⟨Server.bare.bind service, ?_, ?_, ?_⟩
  · simp only [attempts_cons, attempts_nil, first, second, unchanged _ _ second]
  · exact (names "Math").2 (.inr ⟨_, List.mem_singleton_self _, hname⟩)
  · exact (names "_goRPC_").2 (.inl ⟨rfl, rfl⟩)

end Switchboard
