import ZenPass.Android.Freshness
import ZenPass.Extension.Freshness

set_option autoImplicit false

namespace ZenPass.Client

open Transition

section Released

variable (parseOrigin : String → Option Extension.ParsedOrigin)
  (confirmApiOrigin : String → Option String) (sealPayload : SealRequest → Option Wire.Bytes)

/-- The extension releases secrets only while they are fresh. The app does so in the runs whose
stamps are no later than the exchanges that they stand for, and whose releases are not overtaken by
a lock. -/
theorem secrets_released_only_when_fresh :
    (∀ actions, Always (Extension.ManagerRun.step parseOrigin confirmApiOrigin sealPayload)
      Extension.ManagerRun.Guarded {} actions) ∧
    (∀ actions, Every (Android.FreshRun.step confirmApiOrigin sealPayload)
      Android.FreshRun.inTime {} actions →
        Always (Android.FreshRun.step confirmApiOrigin sealPayload) Android.FreshRun.Guarded {}
          actions) :=
  ⟨fun actions => Extension.ManagerRun.always_guarded actions,
    fun _ inTime => Android.FreshRun.always_guarded_of_inTime inTime⟩

end Released

section Samples

def freshStep : Android.FreshRun → Android.Action → Option Android.FreshRun :=
  Android.FreshRun.step some fun _ => some [1, 2, 3]

def totpItem : VaultItemData :=
  ⟨"totp-login", "Mail", some "me", none, none, none, some "JBSWY3DPEHPK3PXP"⟩

def unlocks (t now : Nat) (accountId : String) : List Android.Action :=
  [.call t (.unlock accountId "https://api.test"), .resume t now .done, .resume t now .done,
    .resume t now .message, .resume t now (.session ⟨"token", some 1000000⟩), .resume t now .done,
    .resume t now (.keyBundle (some (some ⟨accountId, "vault"⟩))), .resume t now .opened,
    .resume t now (.changes ⟨[⟨"mail", 1, false, some totpItem⟩], none⟩), .resume t now .done,
    .resume t now .done]

def inTimeActions : List Android.Action :=
  unlocks 1 100000 "account" ++
    [.call 1 (.getTotp "mail"), .resume 1 140000 .done, .resume 1 140000 .done,
      .resume 1 140000 .done, .resume 1 140000 .done, .resume 1 140000 .done,
      .resume 1 140000 .done, .resume 1 140000 .done, .resume 1 140000 .done,
      .resume 1 140000 .done, .resume 1 140000 (.totp (some "123456"))]

theorem secrets_released_only_when_fresh_in_time :
    Always freshStep Android.FreshRun.Guarded {} inTimeActions ∧
      (reached freshStep {} inTimeActions).vault.results =
        [(1, .unlocked true), (1, .totp (some ⟨"123456", 10⟩))] :=
  ⟨(secrets_released_only_when_fresh (fun url => some ⟨"https:", url, "443"⟩) some
      fun _ => some [1, 2, 3]).2 inTimeActions (by decide +kernel), by decide +kernel⟩

def staleActions : List Android.Action :=
  unlocks 1 100000 "a" ++
    [.call 1 .checkFresh, .resume 1 131000 .done, .resume 1 131000 .done, .resume 1 131000 .done,
      .resume 1 131000 .done, .resume 1 131000 .done, .call 2 .lock, .resume 2 131000 .done,
      .resume 2 131000 .done, .resume 2 131000 .done, .resume 2 131000 .done] ++
    unlocks 3 132000 "b" ++
    [.resume 1 150000 .done, .call 3 (.getTotp "mail"), .resume 3 175000 .done,
      .resume 3 175000 .done, .resume 3 175000 .done, .resume 3 175000 .done,
      .resume 3 175000 (.totp (some "123456"))]

def lateActions : List Android.Action :=
  unlocks 1 100000 "a" ++
    [.call 1 (.saveItem ⟨none, totpItem⟩), .resume 1 100000 .done, .resume 1 100000 .done,
      .resume 1 100000 .done, .resume 1 100000 (.uuid "item"), .resume 1 100000 (.uuid "mutation"),
      .call 2 .checkFresh, .resume 2 131000 .done, .resume 2 131000 .done, .resume 2 131000 .done,
      .resume 2 131000 .failed, .resume 2 131000 .done, .resume 2 131000 .done,
      .resume 2 131000 .done, .resume 1 131000 .done]

/-- The app returns a code 43 seconds after its state's last exchange, and sends a save after its
authentication has failed. -/
theorem stale_secrets_released :
    (¬ ∀ actions, Always freshStep Android.FreshRun.Guarded {} actions) ∧
      (reached freshStep {} staleActions).releases =
        [⟨some 2, true, false, some ⟨2, 175000, true, some 132000⟩⟩] ∧
      (reached freshStep {} lateActions).releases =
        [⟨some 1, false, true, some ⟨1, 100000, true, some 100000⟩⟩] := by
  have stale : (reached freshStep {} staleActions).releases =
      [⟨some 2, true, false, some ⟨2, 175000, true, some 132000⟩⟩] := by
    decide +kernel
  refine ⟨fun always => ?_, stale, by decide +kernel⟩
  have guarded := (always staleActions).at_end (run_reached (by decide +kernel))
  have fresh := guarded.fresh _ (by rw [stale]; exact List.mem_singleton_self _)
  obtain ⟨-, -, owner, -, check, ⟨⟩, -, -, exchangedAt, ⟨⟩, late⟩ := fresh
  exact absurd late (by decide)

end Samples

end ZenPass.Client
