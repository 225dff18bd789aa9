import Turnrail.Accounts.Inspection
import Turnrail.Engine.Command
import Turnrail.Failure.Service
import Turnrail.Interleaving.Runs

/-!
# Signing in again

`CancellableLoginProcess.run` lets the official login work in a home of its own.
It promotes the credentials that were saved there once they are known to belong to
the account.  A cancellation can come in between any two steps.
-/

namespace Turnrail

open Interleaving

/-- What reads saved credentials. -/
structure AccountCredentialStore where
  platform : Foundation
  texts : Texts
  base64Encoded : String → Option Data
  double : Json → Option Rat

namespace AccountCredentialStore

/-- How a login fails. -/
inductive Failure
  | cancelled
  | loginRequired
  | plain (error : PlainError)

variable (store : AccountCredentialStore)

/-- The middle piece of a token, as an object. -/
def claims (jwt : String) : Except PlainError Object :=
  match (store.platform.segmentation.characters jwt.toList).splitOn ['.'] with
  | [_, piece, _] =>
    let base64 := piece.flatten.map fun scalar =>
      if scalar = '-' then '+' else if scalar = '_' then '/' else scalar
    let count := (store.platform.segmentation.characters base64).length
    match store.base64Encoded
        (String.ofList (base64 ++ .replicate ((4 - count % 4) % 4) '=')) with
    | some data => RouterJSON.object store.platform data
    | none => .error (.failure ⟨"Invalid account token claims."⟩)
  | _ => .error (.failure ⟨"Invalid account token format."⟩)

/-- A text of an object. -/
def text (object : Object) (key : String) : Except PlainError String :=
  (RouterJSON.text object key).mapError .failure

/-- An object in an object. -/
def map (object : Object) (key : String) : Except PlainError Object :=
  (RouterJSON.map object key).mapError .failure

/-- The credential in saved data, if it is one of the account. -/
def decode (data : Data) (expectedEmail : String) : Except PlainError RouterCredential := do
  let mismatch := PlainError.failure
    ⟨"The signed-in account does not match the registered account."⟩
  let tokens ← map (← RouterJSON.object store.platform data) "tokens"
  let access ← text tokens "access_token"
  let identity ← store.claims (← text tokens "id_token")
  let account ← text tokens "account_id"
  if !store.texts.same (store.texts.lowercased (← text identity "email"))
      (store.texts.lowercased expectedEmail) then throw mismatch
  if !store.texts.same (← text (← map identity "https://api.openai.com/auth")
      "chatgpt_account_id") account then throw mismatch
  let accessClaims ← store.claims access
  let some expiry := (accessClaims.get "exp").bind store.double
    | throw (.failure ⟨"The access token has no expiry."⟩)
  if !store.texts.same (← text (← map accessClaims "https://api.openai.com/auth")
      "chatgpt_account_id") account then
    throw (.failure
      ⟨"Access token workspace does not match the registered authentication."⟩)
  return { accessToken := access, accountID := account, expiresAt := expiry }

/-- Check a stored credential. -/
def validate (data : Data) (expectedEmail : String) (now : Rat) :
    Except Failure RouterCredential := do
  let credential ← (store.decode data expectedEmail).mapError .plain
  if now < credential.expiresAt then .ok credential else .error .loginRequired

/-- The clock and the Keychain at a promotion. -/
structure Attempt where
  now : Rat
  readError : Option RouterFailure
  writeError : Option RouterFailure

/-- The credentials that replace the saved ones. -/
def promote (temporary : Option Data) (expectedEmail : String) (attempt : Attempt) :
    Except Failure Data :=
  match attempt.readError, temporary with
  | some error, _ => .error (.plain (.failure error))
  | none, none => .error (.plain (.failure ⟨"Login did not save an account."⟩))
  | none, some data => do
    let _ ← store.validate data expectedEmail attempt.now
    match attempt.writeError with
    | some error => .error (.plain (.failure error))
    | none => .ok data

variable {store} {expectedEmail : String}

theorem validate_of_promote
    {temporary : Option Data}
    {attempt : Attempt}
    {data : Data}
    (promotes : store.promote temporary expectedEmail attempt = .ok data) :
    ∃ credential,
      store.validate data expectedEmail attempt.now = .ok credential := by
  unfold promote at promotes
  split at promotes
  · cases promotes
  · cases promotes
  · obtain ⟨credential, valid, written⟩ := bind_eq_ok.mp promotes
    split at written <;> cases written
    exact ⟨credential, valid⟩

end AccountCredentialStore

namespace CancellableLoginProcess

open AccountCredentialStore (Failure Attempt)

/-- Where the worker stands. -/
inductive Point
  | starting
  | running
  | exited (outcome : Except Failure CommandResult)
  | cleaning (outcome : Except Failure CommandResult)
  | done (outcome : Except Failure CommandResult)

/-- What the worker, the login and the cancellation handler can do. -/
inductive Move
  | start (error : Option PlainError)
  | save (data : Data)
  | exit (result : CommandResult)
  | promote (attempt : Attempt)
  | clean (keychain directory : Option PlainError)
  | cancel

/-- A sign-in with the credentials of its two homes. -/
structure Login where
  cancelled : Bool
  point : Point
  temporary : Option Data
  destination : Option Data

variable (store : AccountCredentialStore) (expectedEmail : String)

/-- Move to a point of the login. -/
def Login.goto (login : Login) (point : Point) : Login := { login with point }

/-- The locked section after the command. -/
def Login.promote (login : Login) (result : CommandResult) (attempt : Attempt) : Login :=
  if result.exitCode ≠ 0 then login.goto (.cleaning (.ok result))
  else if login.cancelled then login.goto (.cleaning (.error .cancelled))
  else match store.promote login.temporary expectedEmail attempt with
    | .ok data => { login.goto (.cleaning (.ok result)) with destination := some data }
    | .error error => login.goto (.cleaning (.error error))

/-- Take a step, unless it is not the next one. -/
def advance (login : Login) : Move → Option Login
  | .cancel => some { login with cancelled := true }
  | .start error =>
    match login.point, login.cancelled, error with
    | .starting, true, _ => some (login.goto (.exited (.error .cancelled)))
    | .starting, false, some error => some (login.goto (.exited (.error (.plain error))))
    | .starting, false, none => some (login.goto .running)
    | _, _, _ => none
  | .save data =>
    match login.point with
    | .running => some { login with temporary := some data }
    | _ => none
  | .exit result =>
    match login.point with
    | .running =>
      some (login.goto (.exited (if login.cancelled then .error .cancelled else .ok result)))
    | _ => none
  | .promote attempt =>
    match login.point with
    | .exited (.ok result) => some (login.promote store expectedEmail result attempt)
    | .exited (.error error) => some (login.goto (.cleaning (.error error)))
    | _ => none
  | .clean keychain directory =>
    match login.point, keychain, directory with
    | .cleaning _, some error, _ => some (login.goto (.done (.error (.plain error))))
    | .cleaning _, none, some error =>
      some { login.goto (.done (.error (.plain error))) with temporary := none }
    | .cleaning outcome, none, none =>
      some { login.goto (.done outcome) with temporary := none }
    | _, _, _ => none

/-- The moves of a login from its start. -/
abbrev Run (saved : Option Data) (history : List Move) (login : Login) : Prop :=
  Runs (fun before move after => advance store expectedEmail before move = some after)
    ⟨false, .starting, none, saved⟩ history login

/-- Valid credentials of the account replaced the saved ones, with no cancellation
before. -/
def Promoted (history : List Move) (login : Login) : Prop :=
  ∃ earlier attempt later data credential, history = earlier ++ .promote attempt :: later ∧
    .cancel ∉ earlier ∧ login.destination = some data ∧
    store.validate data expectedEmail attempt.now = .ok credential

/-- What is known after the command. -/
def Point.Fits (history : List Move) (login : Login) : Point → Prop
  | .cleaning (.ok result) => result.exitCode = 0 → Promoted store expectedEmail history login
  | .done (.ok result) => login.temporary = none ∧
    (result.exitCode = 0 → Promoted store expectedEmail history login)
  | _ => True

/-- What the history of a login says about it. -/
structure Kept (saved : Option Data) (history : List Move) (login : Login) : Prop where
  cancels : .cancel ∈ history → login.cancelled = true
  saved : login.destination = saved ∨ Promoted store expectedEmail history login
  fits : login.point.Fits store expectedEmail history login

variable {store expectedEmail} {saved : Option Data} {login next : Login} {history : List Move}
  {move : Move}

theorem Promoted.later
    (promoted : Promoted store expectedEmail history login)
    (same : next.destination = login.destination) :
    Promoted store expectedEmail (history ++ [move]) next := by
  obtain ⟨earlier, attempt, later, data, credential, rfl, never, holds, valid⟩ := promoted
  exact ⟨earlier, attempt, later ++ [move], data, credential, by simp, never, same.trans holds,
    valid⟩

/-- A step that leaves the saved credentials alone. -/
theorem Kept.later
    (kept : Kept store expectedEmail saved history login)
    (same : next.destination = login.destination)
    (cancels : next.cancelled = true ∨
      move ≠ .cancel ∧ next.cancelled = login.cancelled)
    (fits : next.point.Fits store expectedEmail (history ++ [move]) next) :
    Kept store expectedEmail saved (history ++ [move]) next := by
  refine ⟨fun member => ?_, same ▸ kept.saved.imp_right (·.later same), fits⟩
  rcases cancels with cancelled | ⟨other, unchanged⟩
  · exact cancelled
  · refine unchanged.trans (kept.cancels ((List.mem_append.mp member).resolve_right ?_))
    simpa using Ne.symm other

theorem Kept.promote
    {result : CommandResult}
    {attempt : Attempt}
    (kept : Kept store expectedEmail saved history login) :
    Kept store expectedEmail saved (history ++ [.promote attempt])
      (login.promote store expectedEmail result attempt) := by
  unfold Login.promote
  split
  · rename_i failed
    exact kept.later rfl (.inr ⟨nofun, rfl⟩) fun zero => absurd zero failed
  · split
    · exact kept.later rfl (.inr ⟨nofun, rfl⟩) trivial
    · rename_i uncancelled
      split
      · rename_i data promotes
        obtain ⟨credential, valid⟩ := AccountCredentialStore.validate_of_promote promotes
        have never : .cancel ∉ history := fun member => uncancelled (kept.cancels member)
        have promoted : Promoted store expectedEmail (history ++ [.promote attempt])
            { login.goto (.cleaning (.ok result)) with destination := some data } :=
          ⟨history, attempt, [], data, credential, rfl, never, rfl, valid⟩
        exact ⟨fun member => absurd member (by simpa using never), .inr promoted,
          fun _ => promoted⟩
      · exact kept.later rfl (.inr ⟨nofun, rfl⟩) trivial

theorem Kept.step
    (kept : Kept store expectedEmail saved history login)
    (steps : advance store expectedEmail login move = some next) :
    Kept store expectedEmail saved (history ++ [move]) next := by
  have fits := kept.fits
  cases move with
  | cancel =>
    cases steps
    refine kept.later rfl (.inl rfl) ?_
    revert fits
    dsimp only
    cases login.point with
    | cleaning outcome =>
      cases outcome with
      | ok => exact fun fits zero => (fits zero).later rfl
      | error => exact id
    | done outcome =>
      cases outcome with
      | ok => exact fun fits => ⟨fits.1, fun zero => (fits.2 zero).later rfl⟩
      | error => exact id
    | _ => exact id
  | start | save | exit =>
    simp only [advance] at steps
    split at steps <;> cases steps <;>
      exact kept.later rfl (.inr ⟨nofun, rfl⟩) (by simp [*, Login.goto, Point.Fits])
  | promote attempt =>
    simp only [advance] at steps
    split at steps <;> cases steps
    · exact kept.promote
    · exact kept.later rfl (.inr ⟨nofun, rfl⟩) trivial
  | clean keychain directory =>
    simp only [advance] at steps
    split at steps <;> cases steps
    · exact kept.later rfl (.inr ⟨nofun, rfl⟩) trivial
    · exact kept.later rfl (.inr ⟨nofun, rfl⟩) trivial
    · rename_i outcome stands
      rw [stands] at fits
      refine kept.later rfl (.inr ⟨nofun, rfl⟩) ?_
      cases outcome with
      | ok => exact ⟨rfl, fun zero => (fits zero).later rfl⟩
      | error => trivial

end CancellableLoginProcess

open CancellableLoginProcess in
/-- However a sign-in is cancelled, the saved credentials are kept or replaced by
valid ones of the account, and only before the cancellation.  A sign-in that
returns left no temporary credentials. -/
theorem sign_in_protects_credentials
    {store : AccountCredentialStore}
    {expectedEmail : String}
    {saved : Option Data}
    {history : List Move}
    {login : Login}
    (run : Run store expectedEmail saved history login) :
    (login.destination = saved ∨ Promoted store expectedEmail history login) ∧
      ∀ result, login.point = .done (.ok result) → login.temporary = none ∧
        (result.exitCode = 0 → Promoted store expectedEmail history login) := by
  have kept : Kept store expectedEmail saved history login :=
    Runs.keeps ⟨nofun, .inl rfl, trivial⟩ (fun _ kept steps => kept.step steps) run
  refine ⟨kept.saved, fun result stands => ?_⟩
  have fits := kept.fits
  rw [stands] at fits
  exact fits

/-- A platform that reads the credentials of one account, which are saved as one
byte, and the claims of their two tokens. -/
def AccountCredentialStore.sample : AccountCredentialStore where
  platform := { Foundation.mute with
    jsonObject := fun bytes =>
      let workspace := ("https://api.openai.com/auth",
        .object [("chatgpt_account_id", .string "w")])
      if bytes = [1] then some (.object [("tokens", .object [
        ("access_token", .string "a.access.c"), ("id_token", .string "a.identity.c"),
        ("account_id", .string "w")])])
      else if bytes = [2] then some (.object [workspace, ("email", .string "a@b")])
      else if bytes = [3] then some (.object [workspace, ("exp", .number 2)])
      else none }
  texts := .plain
  base64Encoded text :=
    if text = "identity" then some [2] else if text = "access==" then some [3] else none
  double
    | .number value => some value
    | _ => none

open CancellableLoginProcess in
/-- A sign-in that is cancelled too late has replaced the credentials. -/
theorem late_cancellation_finds_credentials :
    ∃ history login, Run .sample "a@b" none history login ∧
      login.temporary = none ∧ Promoted .sample "a@b" history login := by
  have run : Run .sample "a@b" none ([] ++ [.start none] ++ [.save [1]] ++
      [.exit ⟨0, "", ""⟩] ++ [.promote ⟨1, none, none⟩] ++ [.cancel] ++
          [.clean none none]) _ :=
    (((((Runs.start.extend rfl).extend rfl).extend rfl).extend rfl).extend rfl).extend rfl
  obtain ⟨gone, promoted⟩ := (sign_in_protects_credentials run).2 ⟨0, "", ""⟩ rfl
  exact ⟨_, _, run, gone, promoted rfl⟩

end Turnrail
