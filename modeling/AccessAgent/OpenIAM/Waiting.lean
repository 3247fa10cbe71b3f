import AccessAgent.OpenIAM.Diagnosis

/-! What time alone changes. Over records that stay as they are, an account only comes closer to
its end, and a name that is no longer held stays lost. -/

namespace AccessAgent.OpenIAM
open Semantics Raising

variable {σ : Type} [Clock σ]

/-! ### Dates that pass -/

def NotLater (earlier later : UtcNow) : Prop := earlier.value.instant ≤ later.value.instant

variable {earlier later : UtcNow} (passes : NotLater earlier later)
include passes

theorem past_later {raw : Json} (past : (pastDate earlier.value raw).isSome = true) :
    (pastDate later.value raw).isSome = true := by
  rw [pastDate,Option.isSome_filter] at past ⊢
  cases parsed : parseEndDate raw with
  | none => simp [parsed] at past
  | some date =>
    simp only [parsed,Option.any_some,Bool.and_eq_true,beq_iff_eq,decide_eq_true_eq,utcNow_aware] at past ⊢
    exact ⟨past.1,lt_of_lt_of_le past.2 passes⟩

theorem lapsed_later {bean : Json} (lapsed : Ended earlier.value bean ∨ EndsAt earlier.value bean) :
    Ended later.value bean ∨ EndsAt later.value bean := by
  rcases lapsed with ended | ⟨date,parsed,same,here⟩
  · exact Or.inl (past_later passes ended)
  · have aware : date.aware = later.value.aware := same.trans ((utcNow_aware earlier).trans (utcNow_aware later).symm)
    have reached : date.instant ≤ later.value.instant := here.trans_le passes
    rcases reached.lt_or_eq with past | now
    · exact Or.inl (ended_iff.mpr ⟨date,parsed,aware,past⟩)
    · exact Or.inr ⟨date,parsed,aware,now⟩

theorem deprovisioned_later {body : Json} (gone : Deprovisioned earlier.value body) : Deprovisioned later.value body := by
  rcases gone with deleted | ⟨nonempty,ended⟩
  · exact Or.inl deleted
  · exact Or.inr ⟨nonempty,fun bean member => past_later passes (ended bean member)⟩

theorem passwordExpired_later {body : Json} (expired : PasswordExpired earlier.value body) :
    PasswordExpired later.value body := by
  obtain ⟨entry,member,past⟩ := expired
  exact ⟨entry,member,past_later passes past⟩

theorem held_earlier {body : Json} {name : String} (held : Directory.HeldAt later.value body name) :
    Directory.HeldAt earlier.value body name := by
  obtain ⟨bean,member,named,lasting⟩ := held
  exact ⟨bean,member,named,fun lapsed => lasting (lapsed_later passes lapsed)⟩

omit passes

/-! ### The account -/

/-- What waiting can make of an account: its password expires, or it is given up unless it is
locked. -/
inductive Ages : AccountStatus → AccountStatus → Prop
  | stays (status : AccountStatus) : Ages status status
  | expires : Ages .active .passwordExpired
  | ends {status : AccountStatus} (unlocked : status ≠ .locked) : Ages status .deprovisioned

theorem statusAt_ages {firstPasswords nextPasswords firstGrants nextGrants : UtcNow} (passwords : NotLater firstPasswords nextPasswords)
    (grants : NotLater firstGrants nextGrants) (body : Json) :
    Ages (Directory.statusAt firstPasswords.value firstGrants.value body)
      (Directory.statusAt nextPasswords.value nextGrants.value body) := by
  unfold Directory.statusAt
  by_cases locked : Locked body
  · rw [if_pos locked,if_pos locked]
    exact .stays _
  rw [if_neg locked,if_neg locked]
  by_cases gone : Deprovisioned nextGrants.value body
  · rw [if_pos gone]
    refine .ends ?_
    split_ifs <;> simp
  have remains : ¬Deprovisioned firstGrants.value body := fun early => gone (deprovisioned_later grants early)
  rw [if_neg gone,if_neg remains]
  by_cases active : Active body
  · rw [if_neg (not_not.mpr active),if_neg (not_not.mpr active)]
    by_cases expired : PasswordExpired firstPasswords.value body
    · rw [if_pos expired,if_pos (passwordExpired_later passwords expired)]
      exact .stays _
    · rw [if_neg expired]
      split_ifs
      · exact .expires
      · exact .stays _
  · rw [if_pos active,if_pos active]
    exact .stays _

variable (directory : Directory) (settings : Settings) (setOrder : SetOrder) (config : Config)

/-- Waiting restores nothing: over unchanged records a later account check answers what the
account has aged to, and a later authorization check misses every name that was missing. -/
theorem waiting_restores_nothing (subjectSub : String) {world next : σ}
    (passwords : NotLater (Clock.now world).1 (Clock.now next).1)
    (grants : NotLater (Clock.now (Clock.now world).2).1 (Clock.now (Clock.now next).2).1) :
    (∃ result again, (getUserStatus (directory.environment settings setOrder σ) config subjectSub).answer world = .ok result ∧
      (getUserStatus (directory.environment settings setOrder σ) config subjectSub).answer next = .ok again ∧
      Ages result.status again.status) ∧
    ∀ required, ∃ missing expired missingNow expiredNow,
      Step4Authorization.assess (Clock.now world).1.value required directory.account.permissions = .ok (missing,expired) ∧
      Step4Authorization.assess (Clock.now next).1.value required directory.account.permissions = .ok (missingNow,expiredNow) ∧
      missing ⊆ missingNow := by
  constructor
  · obtain ⟨result,answered,status⟩ := directory.account_known settings setOrder config subjectSub world
    obtain ⟨again,answeredAgain,statusAgain⟩ := directory.account_known settings setOrder config subjectSub next
    refine ⟨result,again,answered,answeredAgain,?_⟩
    rw [status,statusAgain]
    exact statusAt_ages passwords grants _
  · intro required
    have assesses : ∀ now : UtcNow, Succeeds (Step4Authorization.assess now.value required directory.account.permissions) :=
      fun now => Step4Authorization.succeeds_assess.mpr ((directory.account.dated_iff now).mpr directory.offsets.2)
    obtain ⟨⟨missing,expired⟩,assessed⟩ := assesses (Clock.now world).1
    obtain ⟨⟨missingNow,expiredNow⟩,assessedNow⟩ := assesses (Clock.now next).1
    refine ⟨missing,expired,missingNow,expiredNow,assessed,assessedNow,?_⟩
    intro name member
    obtain ⟨demanded,lost⟩ := (Step4Authorization.assess_success assessed name).mp member
    refine (Step4Authorization.assess_success assessedNow name).mpr ⟨demanded,?_⟩
    rw [directory.held_iff] at lost ⊢
    exact fun held => lost (held_earlier passwords held)

def decadesLater : UtcNow := ⟨⟨⟨2030,1,1,0,0,0,0,some 0⟩,by decide⟩,rfl⟩

/-- In the meantime a password and a grant have run out. -/
theorem waiting_restores_nothing_decades :
    let connector := Directory.former.environment ⟨"",[]⟩ .insertion Watch
    (∃ result again, (getUserStatus connector Directory.appAdminConfig "u-1").answer (.stopped default) = .ok result ∧
      (getUserStatus connector Directory.appAdminConfig "u-1").answer (.stopped decadesLater) = .ok again ∧
      result.status = .active ∧ again.status = .passwordExpired ∧ Ages result.status again.status) ∧
    ∃ missing expired missingNow expiredNow,
      Step4Authorization.assess (default : UtcNow).value [⟨"role","APP_USER"⟩,⟨"role","APP_ADMIN"⟩]
        Directory.former.account.permissions = .ok (missing,expired) ∧
      Step4Authorization.assess decadesLater.value [⟨"role","APP_USER"⟩,⟨"role","APP_ADMIN"⟩]
        Directory.former.account.permissions = .ok (missingNow,expiredNow) ∧
      "APP_USER" ∉ missing ∧ "APP_USER" ∈ missingNow ∧ missing ⊆ missingNow := by
  intro connector
  have passes : NotLater default decadesLater := by
    rw [NotLater]
    decide
  obtain ⟨⟨result,again,answered,answeredAgain,ages⟩,assesses⟩ := waiting_restores_nothing Directory.former ⟨"",[]⟩ .insertion
    Directory.appAdminConfig "u-1" (show NotLater (Clock.now (Watch.stopped default)).1 (Clock.now (Watch.stopped decadesLater)).1
      from passes) passes
  obtain ⟨missing,expired,missingNow,expiredNow,assessed,assessedNow,more⟩ : ∃ missing expired missingNow expiredNow,
      Step4Authorization.assess (default : UtcNow).value [⟨"role","APP_USER"⟩,⟨"role","APP_ADMIN"⟩]
        Directory.former.account.permissions = .ok (missing,expired) ∧
      Step4Authorization.assess decadesLater.value [⟨"role","APP_USER"⟩,⟨"role","APP_ADMIN"⟩]
        Directory.former.account.permissions = .ok (missingNow,expiredNow) ∧ missing ⊆ missingNow := assesses _
  have statuses : ((getUserStatus connector Directory.appAdminConfig "u-1").answer (.stopped default)).map UserStatusResult.status =
      .ok .active ∧ ((getUserStatus connector Directory.appAdminConfig "u-1").answer (.stopped decadesLater)).map
        UserStatusResult.status = .ok .passwordExpired := by decide +kernel
  have names : (Step4Authorization.assess (default : UtcNow).value [⟨"role","APP_USER"⟩,⟨"role","APP_ADMIN"⟩]
      Directory.former.account.permissions).map Prod.fst = .ok ["APP_ADMIN"] ∧
      (Step4Authorization.assess decadesLater.value [⟨"role","APP_USER"⟩,⟨"role","APP_ADMIN"⟩]
        Directory.former.account.permissions).map Prod.fst = .ok ["APP_USER","APP_ADMIN"] := by decide +kernel
  rw [answered,answeredAgain] at statuses
  rw [assessed,assessedNow] at names
  obtain ⟨rfl,rfl⟩ : missing = ["APP_ADMIN"] ∧ missingNow = ["APP_USER","APP_ADMIN"] :=
    ⟨Except.ok.inj names.1,Except.ok.inj names.2⟩
  exact ⟨⟨result,again,answered,answeredAgain,Except.ok.inj statuses.1,Except.ok.inj statuses.2,ages⟩,
    _,expired,_,expiredNow,assessed,assessedNow,by decide,by decide,more⟩

end AccessAgent.OpenIAM
