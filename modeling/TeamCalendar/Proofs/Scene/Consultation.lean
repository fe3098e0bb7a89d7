import TeamCalendar.Proofs.Scene

/-!
# Consultations

A directory is asked, and its answer counts if it comes in time and is not a failure.  The role of a
requester is found out by such a consultation; the outcome is the same for everyone who fails to
show a permitted role, and another one for a directory that fails.

* `Collaborators.gate` is the outcome of an authorization.
* `Scene.Kept` says that nothing has been written, `Scene.Refused` what a refusal leaves behind.
-/

namespace TeamCalendar

variable {α β : Type}

namespace Timed

/-- The answer comes in time and is the given value. -/
def Gives (deadline : Nat) (answer : Timed (Except String α)) (value : α) : Prop :=
  answer.delay ≤ deadline ∧ answer.value = .ok value

/-- The answer is a failure or comes too late. -/
def Lost (deadline : Nat) (answer : Timed (Except String α)) : Prop :=
  deadline < answer.delay ∨ ∃ cause, answer.value = .error cause

/-- What the service makes of the answer of a directory. -/
def verdict (deadline : Nat) (name : String) (answer : Timed (Except String α)) :
    Except Refusal α :=
  if deadline < answer.delay then
    .error (.unavailable s!"{name} timed out after {deadline}ms")
  else
    match answer.value with
    | .ok value => .ok value
    | .error cause => .error (.unavailable cause)

theorem verdict_eq_ok_iff {deadline : Nat} {name : String} {answer : Timed (Except String α)}
    {value : α} : answer.verdict deadline name = .ok value ↔ answer.Gives deadline value := by
  unfold verdict Gives
  split
  · next hlate =>
    constructor
    · intro h
      cases h
    · intro h
      omega
  · next hlate =>
    have hintime : answer.delay ≤ deadline := Nat.le_of_not_lt hlate
    split <;> simp_all

theorem exists_eq_unavailable_of_verdict {deadline : Nat} {name : String}
    {answer : Timed (Except String α)} {refusal : Refusal}
    (h : answer.verdict deadline name = .error refusal) :
    answer.Lost deadline ∧ ∃ cause, refusal = .unavailable cause := by
  unfold verdict at h
  split at h
  · next hlate =>
    cases h
    exact ⟨Or.inl hlate, _, rfl⟩
  · split at h
    · cases h
    · next cause hcause =>
      cases h
      exact ⟨Or.inr ⟨cause, hcause⟩, cause, rfl⟩

/-- A lost answer is a refusal. -/
theorem Lost.exists_verdict_eq {deadline : Nat} {answer : Timed (Except String α)}
    (hlost : answer.Lost deadline) (name : String) :
    ∃ cause, answer.verdict deadline name = .error (.unavailable cause) := by
  unfold verdict
  split
  · exact ⟨_, rfl⟩
  · next hintime =>
    rcases hlost with hlate | ⟨cause, hcause⟩
    · exact absurd hlate hintime
    · rw [hcause]
      exact ⟨cause, rfl⟩

/-- An answer gives one value only. -/
theorem Gives.unique {deadline : Nat} {answer : Timed (Except String α)} {value other : α}
    (h : answer.Gives deadline value) (hother : answer.Gives deadline other) : value = other := by
  have heq := h.2.symm.trans hother.2
  cases heq
  rfl

/-- An answer that is lost gives nothing. -/
theorem Lost.not_gives {deadline : Nat} {answer : Timed (Except String α)} {value : α}
    (hlost : answer.Lost deadline) : ¬answer.Gives deadline value := by
  rintro ⟨hintime, hvalue⟩
  rcases hlost with hlate | ⟨cause, hcause⟩
  · omega
  · rw [hvalue] at hcause
    cases hcause

end Timed

namespace Collaborators

/-- The outcome of an authorization. -/
def gate (c : Collaborators) (settings : RuntimeSettings) (requester : UserId) (teamId : TeamId)
    (required : List Role) : Except Refusal Role :=
  match (c.membership teamId [requester]).verdict settings.deadline "check_membership" with
  | .error refusal => .error refusal
  | .ok membership =>
    match Service.decide? requester membership required with
    | some role => .ok role
    | none => .error .forbidden

/-- The team directory shows in time that the requester has one of the required roles. -/
def Permits (c : Collaborators) (settings : RuntimeSettings) (requester : UserId) (teamId : TeamId)
    (required : List Role) (role : Role) : Prop :=
  ∃ membership, (c.membership teamId [requester]).Gives settings.deadline membership ∧
    membership[requester]? = some role ∧ role ≠ .unknown ∧ role ∈ required

end Collaborators

theorem Service.decide?_eq_some_iff {requester : UserId} {membership : Membership}
    {required : List Role} {role : Role} :
    decide? requester membership required = some role ↔
      membership[requester]? = some role ∧ role ≠ .unknown ∧ role ∈ required := by
  simp [decide?, Option.filter_eq_some_iff, Role.isAnyOf]

namespace Collaborators

variable {c : Collaborators} {settings : RuntimeSettings} {requester : UserId} {teamId : TeamId}
  {required : List Role}

theorem gate_eq_ok_iff {role : Role} :
    c.gate settings requester teamId required = .ok role ↔
      c.Permits settings requester teamId required role := by
  unfold gate Permits
  cases hverdict :
      (c.membership teamId [requester]).verdict settings.deadline "check_membership" with
  | error refusal =>
    have hlost := (Timed.exists_eq_unavailable_of_verdict hverdict).1
    constructor
    · intro h
      cases h
    · rintro ⟨membership, hgives, -⟩
      exact absurd hgives hlost.not_gives
  | ok membership =>
    have hgives := Timed.verdict_eq_ok_iff.1 hverdict
    have hunique : ∀ other, (c.membership teamId [requester]).Gives settings.deadline other ↔
        membership = other := by
      intro other
      rw [← Timed.verdict_eq_ok_iff, hverdict, Except.ok.injEq]
    simp only [hunique, exists_eq_left', ← Service.decide?_eq_some_iff]
    cases Service.decide? requester membership required with
    | some other => simp
    | none => simp

/-- A directory that fails is not taken for a denial. -/
theorem exists_gate_eq_unavailable
    (hlost : (c.membership teamId [requester]).Lost settings.deadline) :
    ∃ cause, c.gate settings requester teamId required = .error (.unavailable cause) := by
  obtain ⟨cause, hverdict⟩ := hlost.exists_verdict_eq "check_membership"
  refine ⟨cause, ?_⟩
  rw [gate, hverdict]

/-- A requester without a role, with an unknown one, or with one that is not required, is denied. -/
theorem gate_eq_forbidden {membership : Membership}
    (hgives : (c.membership teamId [requester]).Gives settings.deadline membership)
    (hdenied : ∀ role, membership[requester]? = some role → role = .unknown ∨ role ∉ required) :
    c.gate settings requester teamId required = .error .forbidden := by
  have hnone : Service.decide? requester membership required = none := by
    cases hdecide : Service.decide? requester membership required with
    | none => rfl
    | some role =>
      obtain ⟨hrole, hknown, hrequired⟩ := Service.decide?_eq_some_iff.1 hdecide
      rcases hdenied role hrole with hunknown | hother
      · exact absurd hunknown hknown
      · exact absurd hrequired hother
  rw [gate, Timed.verdict_eq_ok_iff.2 hgives]
  simp only [hnone]

/-- A refusal is either due to the directory or to a role that is not there or not permitted. -/
theorem gate_eq_error {refusal : Refusal}
    (h : c.gate settings requester teamId required = .error refusal) :
    ((c.membership teamId [requester]).Lost settings.deadline ∧
      ∃ cause, refusal = .unavailable cause) ∨
    (∃ membership, (c.membership teamId [requester]).Gives settings.deadline membership) ∧
      refusal = .forbidden := by
  unfold gate at h
  split at h
  · next hverdict =>
    cases h
    exact Or.inl (Timed.exists_eq_unavailable_of_verdict hverdict)
  · next membership hverdict =>
    split at h
    · cases h
    · cases h
      exact Or.inr ⟨⟨membership, Timed.verdict_eq_ok_iff.1 hverdict⟩, rfl⟩

end Collaborators

/-- The counters after a refusal: the failures of others are counted. -/
def Refusal.counted : Refusal → Tally → Tally
  | unavailable _, tally => tally.add .callFailure
  | storage _, tally => tally.add .storageError
  | _, tally => tally

namespace Scene

/-- A directory has been asked, and its failure counted. -/
def consulted (s : Scene) (q : Directory.Question) : Except Refusal α → Scene
  | .ok _ => s.note (.directory q)
  | .error _ => (s.note (.directory q)).count .callFailure

/-- Nothing has been written or made known. -/
structure Kept (s s' : Scene) : Prop where
  committed : s'.store.committed = s.store.committed
  staged : s'.store.staged = s.store.staged
  failing : s'.store.failing = s.store.failing
  published : s'.published = s.published

/-- What a refusal leaves behind: nothing has been written or made known, and the failure of others
has been counted. -/
structure Refused (s : Scene) (refusal : Refusal) (s' : Scene) : Prop extends Kept s s' where
  tally : s'.tally = refusal.counted s.tally

theorem Kept.of_note {s s' : Scene} {q : Surroundings.Question} (h : (s.note q).Kept s') :
    s.Kept s' :=
  ⟨h.committed, h.staged, h.failing, h.published⟩

theorem Refused.of_note {s s' : Scene} {q : Surroundings.Question} {refusal : Refusal}
    (h : (s.note q).Refused refusal s') : s.Refused refusal s' :=
  ⟨h.toKept.of_note, h.tally⟩

variable {c : Collaborators} {s : Scene} {settings : RuntimeSettings}

@[simp]
theorem store_consulted (q : Directory.Question) (verdict : Except Refusal α) :
    (s.consulted q verdict).store = s.store := by
  cases verdict <;> rfl

@[simp]
theorem published_consulted (q : Directory.Question) (verdict : Except Refusal α) :
    (s.consulted q verdict).published = s.published := by
  cases verdict <;> rfl

@[simp]
theorem calls_consulted (q : Directory.Question) (verdict : Except Refusal α) :
    (s.consulted q verdict).calls = .directory q :: s.calls := by
  cases verdict <;> rfl

/-- A directory that fails has been counted when the request is refused. -/
theorem refused_consulted {q : Directory.Question} {deadline : Nat} {name : String}
    {answer : Timed (Except String α)} {refusal : Refusal}
    (h : answer.verdict deadline name = .error refusal) :
    s.Refused refusal (s.consulted q (answer.verdict deadline name)) := by
  obtain ⟨-, cause, rfl⟩ := Timed.exists_eq_unavailable_of_verdict h
  rw [h]
  exact ⟨⟨rfl, rfl, rfl, rfl⟩, rfl⟩

theorem run_settle (deadline : Nat) (name : String) (answer : Timed (Except String α)) (s : Scene) :
    run c (Service.settle deadline name answer) s =
      some (answer.verdict deadline name,
        match answer.verdict deadline name with
        | .ok _ => s
        | .error _ => s.count .callFailure) := by
  unfold Service.settle Timed.verdict
  by_cases hlate : deadline < answer.delay
  · rw [if_pos hlate, if_pos hlate, run_bind_ok (run_count _)]
    rfl
  · rw [if_neg hlate, if_neg hlate]
    cases answer.value with
    | ok value => rfl
    | error cause => exact run_bind_ok (run_count _)

/-- The directories are asked, and their answers judged, in one way. -/
theorem run_settle_note (q : Directory.Question) (deadline : Nat)
    (answer : Timed (Except String α)) :
    run c (Service.settle deadline q.name answer) (s.note (.directory q)) =
      some (answer.verdict deadline q.name, s.consulted q (answer.verdict deadline q.name)) := by
  rw [run_settle]
  cases answer.verdict deadline q.name <;> rfl

theorem run_membership (c : Collaborators) (settings : RuntimeSettings) (teamId : TeamId)
    (userIds : List UserId) (s : Scene) :
    run c (Service.membership settings teamId userIds) s =
      let verdict := (c.membership teamId userIds).verdict settings.deadline "check_membership"
      some (verdict, s.consulted (.membership teamId userIds) verdict) :=
  run_settle_note (.membership teamId userIds) _ _

theorem run_roster (c : Collaborators) (settings : RuntimeSettings) (teamId : TeamId) (s : Scene) :
    run c (Service.roster settings teamId) s =
      let verdict := (c.roster teamId).verdict settings.deadline "team_summary"
      some (verdict, s.consulted (.roster teamId) verdict) :=
  run_settle_note (.roster teamId) _ _

theorem run_profiles (c : Collaborators) (settings : RuntimeSettings) (userIds : List UserId)
    (s : Scene) :
    run c (Service.profiles settings userIds) s =
      let verdict := (c.profiles userIds).verdict settings.deadline "get_profiles"
      some (verdict, s.consulted (.profiles userIds) verdict) :=
  run_settle_note (.profiles userIds) _ _

/-- The scene after an authorization. -/
def gated (s : Scene) (c : Collaborators) (settings : RuntimeSettings) (requester : UserId)
    (teamId : TeamId) : Scene :=
  s.consulted (.membership teamId [requester])
    ((c.membership teamId [requester]).verdict settings.deadline "check_membership")

variable {requester : UserId} {teamId : TeamId} {required : List Role}

@[simp]
theorem store_gated : (s.gated c settings requester teamId).store = s.store :=
  store_consulted _ _

@[simp]
theorem published_gated : (s.gated c settings requester teamId).published = s.published :=
  published_consulted _ _

@[simp]
theorem calls_gated : (s.gated c settings requester teamId).calls =
    .directory (.membership teamId [requester]) :: s.calls :=
  calls_consulted _ _

theorem run_authorize :
    run c (Service.authorize settings requester teamId required) s =
      some (c.gate settings requester teamId required, s.gated c settings requester teamId) := by
  unfold Service.authorize Collaborators.gate gated
  rw [run_bind, run_membership]
  cases (c.membership teamId [requester]).verdict settings.deadline "check_membership" with
  | error refusal => rfl
  | ok membership =>
    simp only [Option.bind_some]
    cases Service.decide? requester membership required <;> rfl

theorem gated_of_ok {role : Role} (h : c.gate settings requester teamId required = .ok role) :
    s.gated c settings requester teamId = s.note (.directory (.membership teamId [requester])) := by
  obtain ⟨membership, hgives, -⟩ := Collaborators.gate_eq_ok_iff.1 h
  rw [gated, Timed.verdict_eq_ok_iff.2 hgives]
  rfl

theorem run_authorize_ok {role : Role}
    (h : c.gate settings requester teamId required = .ok role) :
    run c (Service.authorize settings requester teamId required) s =
      some (.ok role, s.note (.directory (.membership teamId [requester]))) := by
  rw [run_authorize, h, gated_of_ok h]

theorem run_authorize_error {refusal : Refusal}
    (h : c.gate settings requester teamId required = .error refusal) :
    run c (Service.authorize settings requester teamId required) s =
      some (.error refusal, s.gated c settings requester teamId) := by
  rw [run_authorize, h]

theorem refused_gated {refusal : Refusal}
    (h : c.gate settings requester teamId required = .error refusal) :
    s.Refused refusal (s.gated c settings requester teamId) := by
  rcases Collaborators.gate_eq_error h with ⟨hlost, cause, rfl⟩ | ⟨⟨membership, hgives⟩, rfl⟩
  · cases hverdict :
        (c.membership teamId [requester]).verdict settings.deadline "check_membership" with
    | error refusal =>
      obtain ⟨-, other, rfl⟩ := Timed.exists_eq_unavailable_of_verdict hverdict
      rw [gated, hverdict]
      exact ⟨⟨rfl, rfl, rfl, rfl⟩, rfl⟩
    | ok membership => exact absurd (Timed.verdict_eq_ok_iff.1 hverdict) hlost.not_gives
  · rw [gated, Timed.verdict_eq_ok_iff.2 hgives]
    exact ⟨⟨rfl, rfl, rfl, rfl⟩, rfl⟩

end Scene

end TeamCalendar
