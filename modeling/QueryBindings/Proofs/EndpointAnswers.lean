import QueryBindings.Endpoint.Answer
import QueryBindings.Proofs.DanglingReferences
import QueryBindings.Schema.Assembly

/-! # Answers and texts

A schema comes from an endpoint's answer or from a text that holds one.  Both ways judge the text
alike (`tells`), in one order: can it be read, does it report errors, does it hold a payload.  An
endpoint only adds its status to an error that the text reports, and under a status of failure no
text counts.

Main statements: `payload_of_isSuccess` and `payload_of_not_isSuccess` (an answer),
`ofAnswer_eq_tells` (a text), `ask_agrees_with_ofAnswer` (all of it). -/

namespace QueryBindings

open Introspection

def Error.withStatus (status : Nat) : Error → Error
  | .response _ errors body message => .response (some status) errors body message
  | e => e

/-- What an error tells of an answer: its status if it has one, the messages in its text, the text,
and how all that is worded. -/
def Error.reported : Error → Option Nat × List String × String × String
  | .response status errors body message => (status, errors.map (·.message), body, message)
  | _ => (none, [], "", "")

/-! ### What a text tells -/

/-- What `text` tells of the schema; an error that it reports came under `status`. -/
def tells (status : Option Nat) (text : String) : Except Error Payload :=
  match Json.decodeText responseDecoder text with
  | .error fault => .error (.json fault)
  | .ok r =>
    if r.hasErrors then .error (.response status r.errors text r.summary)
    else
      match r.data.bind id with
      | some payload => .ok payload
      | none => .error .incompleteIntrospection

theorem tells_some (status : Nat) (text : String) :
    tells (some status) text = (tells none text).mapError (Error.withStatus status) := by
  unfold tells
  cases Json.decodeText responseDecoder text with
  | error fault => rfl
  | ok r =>
      dsimp only
      cases r.hasErrors
      · cases r.data.bind id <;> rfl
      · rfl

theorem Schema.ofAnswer_eq_tells (options : Options) (text : String) :
    ofAnswer options text = (tells none text).bind (ofPayload options) := by
  unfold ofAnswer tells
  cases Json.decodeText responseDecoder text with
  | error fault => rfl
  | ok r =>
      dsimp only
      cases r.hasErrors
      · cases r.data.bind id <;> rfl
      · rfl

theorem Schema.mapError_ofPayload (options : Options) (status : Nat) (payload : Payload) :
    (ofPayload options payload).mapError (Error.withStatus status) = ofPayload options payload := by
  obtain ⟨base, -, -, hassemble⟩ := ofPayload_eq_assemble options payload
  rw [hassemble]
  cases h : base.assemble with
  | ok s => rfl
  | error e =>
      obtain ⟨r, -, rfl⟩ := assemble_eq_error.mp h
      rfl

theorem mapError_bind {ε α β : Type} {step : Except ε α} {next : α → Except ε β} {change : ε → ε}
    (h : ∀ a, (next a).mapError change = next a) :
    (step.bind next).mapError change = (step.mapError change).bind next := by
  cases step with
  | error e => rfl
  | ok a => exact h a

/-! ### What an answer tells -/

namespace Endpoint

variable (wording : Json.Wording)

/-- An answer under a status that `isSuccess` tells what its text does. -/
theorem Answer.payload_of_isSuccess {a : Answer} (h : isSuccess a.status = true) :
    a.payload wording = tells (some a.status) a.body := by
  unfold payload response tells responseDecoder
  cases Json.decodeText (Response.decoder dataDecoder) a.body with
  | error fault =>
      dsimp only
      rw [if_pos h]
      rfl
  | ok r =>
      dsimp only
      rw [if_pos h]
      cases r.hasErrors <;> rfl

/-- An answer under any other status tells nothing, whether its text can be read or not. -/
theorem Answer.payload_of_not_isSuccess {a : Answer} (h : isSuccess a.status = false) :
    ∃ errors message,
      a.payload wording = .error (.response (some a.status) errors a.body message) := by
  have hnot : ¬ isSuccess a.status = true := by rw [h]; exact Bool.false_ne_true
  unfold payload response
  cases Json.decodeText (Response.decoder dataDecoder) a.body with
  | error fault =>
      dsimp only
      rw [if_neg hnot]
      exact ⟨_, _, rfl⟩
  | ok r =>
      dsimp only
      rw [if_neg hnot]
      cases r.hasErrors
      · exact ⟨_, _, rfl⟩
      · exact ⟨_, _, rfl⟩

variable {m : Type → Type} [Monad m]

def Settings.askSchema (s : Settings) (wording : Json.Wording) (send : Transport m)
    (options : Options) : m (Except Error Schema) :=
  (·.bind (Schema.ofPayload options)) <$> s.ask wording send

variable [LawfulMonad m]

theorem Settings.ask_of_send {s : Settings} {url : Url} {send : Transport m} {a : Answer}
    (hurl : s.url = .ok url) (hsend : send url Introspection.requestBody = pure (.ok a)) :
    s.ask wording send = pure (a.payload wording) := by
  unfold ask
  rw [hurl]
  dsimp only
  rw [hsend, pure_bind]
  rfl

/-- Under every status that `isSuccess` the schema that an endpoint tells of is the one that
`ofAnswer` makes of the text, or the error is the same but for the status.  Under every other status
every text is an error with that status and that text. -/
theorem Settings.ask_agrees_with_ofAnswer {s : Settings} {url : Url} {send : Transport m}
    {status : Nat} {body : String} (hurl : s.url = .ok url)
    (hsend : send url Introspection.requestBody = pure (.ok ⟨status, body⟩)) (options : Options) :
    (isSuccess status = true → s.askSchema wording send options =
      pure ((Schema.ofAnswer options body).mapError (Error.withStatus status))) ∧
    (isSuccess status = false → ∃ errors message,
      s.ask wording send = pure (.error (.response (some status) errors body message))) := by
  constructor
  · intro h
    rw [askSchema, ask_of_send wording hurl hsend, map_pure,
      Answer.payload_of_isSuccess wording h, tells_some, Schema.ofAnswer_eq_tells,
      mapError_bind (Schema.mapError_ofPayload options status)]
  · intro h
    rw [ask_of_send wording hurl hsend]
    obtain ⟨errors, message, hpayload⟩ :=
      Answer.payload_of_not_isSuccess wording (a := ⟨status, body⟩) h
    exact ⟨errors, message, congrArg pure hpayload⟩

def localSettings : Settings := .ofAddress "http://localhost/graphql"

def boomText : String :=
  "\x7b\"data\": \x7b\"__schema\": null\x7d, \"errors\": [\x7b\"message\": \"boom\"\x7d]\x7d"

def answering (status : Nat) (body : String) : Transport Id := fun _ _ => .ok ⟨status, body⟩

theorem Settings.ask_boomText :
    ∃ url, localSettings.url = .ok url ∧
      (∀ status, answering status boomText url Introspection.requestBody =
        pure (.ok ⟨status, boomText⟩)) ∧
      isSuccess 203 = true ∧
      localSettings.askSchema Json.Fault.category (answering 203 boomText) .default =
        (pure ((Schema.ofAnswer .default boomText).mapError (Error.withStatus 203)) : Id _) ∧
      ((Schema.ofAnswer .default boomText).map fun _ => ()).mapError Error.reported =
        .error (none, ["boom"], boomText, "boom") ∧
      isSuccess 502 = false ∧
      ∃ errors message, localSettings.ask Json.Fault.category (answering 502 boomText) =
        (pure (.error (.response (some 502) errors boomText message)) : Id _) := by
  have hsome : localSettings.url.toOption.isSome = true := by decide +kernel
  obtain ⟨url, hurl⟩ := Option.isSome_iff_exists.mp hsome
  have hlocal := eq_ok_of_toOption hurl
  have hsend : ∀ status, answering status boomText url Introspection.requestBody =
      pure (.ok ⟨status, boomText⟩) := fun _ => rfl
  have hsuccess : isSuccess 203 = true := by decide
  have hfailure : isSuccess 502 = false := by decide
  exact ⟨url, hlocal, hsend, hsuccess,
    (ask_agrees_with_ofAnswer _ hlocal (hsend 203) .default).1 hsuccess, by decide +kernel, hfailure,
    (ask_agrees_with_ofAnswer _ hlocal (hsend 502) .default).2 hfailure⟩

end Endpoint

end QueryBindings
