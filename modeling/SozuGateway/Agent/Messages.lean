import SozuGateway.Sozu.Command
import SozuGateway.Ir
import SozuGateway.Lib.Text

/-!
# Reading a refusal

How `crates/sozu-agent/src/lib.rs` reads the message of a failed request: Sōzu's answers
carry a text and no code.

* `workerSegments` — the outcomes of the workers in one message.
* `isAlreadyGone` — a teardown of an object Sōzu no longer holds;
  `goneFromMainProcess` — its main process said so.
* `isDuplicateAdd` — an add of an object Sōzu already holds.
* `isReplaceIntoEmptyListener` — a rotation on a listener without a certificate.
-/

set_option autoImplicit false

namespace SozuGateway

namespace Agent

open Lib Sozu

/-! ## Verbs -/

/-- The removal of a frontend. -/
def isFrontendTeardown : RequestType → Bool
  | .removeFrontend _ _ | .removeTcpFrontend _ | .removeUdpFrontend _ => true
  | _ => false

/-! ## The outcomes of the workers -/

/-- The length of `"<digits>: "` at the head of a text. -/
def workerHeader (text : List Char) : Option ℕ :=
  let digits := text.takeWhile Char.isDigit
  if digits ≠ [] ∧ [':', ' '] <+: text.drop digits.length then some (digits.length + 2) else none

/-- A worker's outcome may start here: at the head, or after `", "`. -/
def atBoundary (text : List Char) (i : ℕ) : Bool :=
  i = 0 ∨ (2 ≤ i ∧ (text.drop (i - 2)).take 2 = [',', ' '])

/-- Where each worker's outcome starts, and its body, from `i` on. -/
def segmentStarts (text : List Char) : ℕ → ℕ → List (ℕ × ℕ)
  | 0, _ => []
  | fuel + 1, i =>
      if text.length ≤ i then []
      else
        match if atBoundary text i then workerHeader (text.drop i) else none with
        | some n => (i, i + n) :: segmentStarts text fuel (i + n)
        | none => segmentStarts text fuel (i + 1)

/-- The body of each outcome, up to the next one. -/
def segmentBodies (text : List Char) : List (ℕ × ℕ) → List (List Char)
  | [] => []
  | [(_, body)] => [trimChars (text.drop body)]
  | (_, body) :: (next, body') :: starts =>
      trimChars ((text.take (next - 2)).drop body) :: segmentBodies text ((next, body') :: starts)

/-- The per-worker outcomes of a message, or the message itself. -/
def workerSegments (message : String) : List String :=
  match segmentStarts message.toList message.toList.length 0 with
  | [] => [message]
  | starts => (segmentBodies message.toList starts).map String.ofList

/-! ## What a refusal means -/

/-- The main process's own prefix, in lower case. -/
def mainProcessRefusal : String := "could not apply request on the main process state:"

/-- What only some verbs' workers answer for an object they do not hold. -/
def goneTexts : RequestType → List String
  | .removeListener _ | .deactivateListener _ =>
      ["the listener is not activated", "no tcp listener to remove", "no udp listener to remove"]
  | .removeFrontend _ _ => ["could not remove route"]
  | _ => []

/-- A worker's outcome says that it does not hold the object. -/
def saysGone (request : RequestType) (segment : String) : Bool :=
  let m := toAsciiLowercase segment
  containsText m "did not find" || containsText m "did not bring any change" ||
    containsText m "found no listener" || (goneTexts request).any (containsText m)

def isOk (segment : String) : Bool := toAsciiLowercase segment = "ok"

/-- A text under which no teardown's object is gone. -/
theorem saysGone_eq_false {t : RequestType} {text : String}
    (h : ∀ needle ∈ ["did not find", "did not bring any change", "found no listener",
      "the listener is not activated", "no tcp listener to remove", "no udp listener to remove",
      "could not remove route"], containsText (toAsciiLowercase text) needle = false) :
    saysGone t text = false := by
  have hgone : (goneTexts t).any (containsText (toAsciiLowercase text)) = false := by
    rw [List.any_eq_false]
    intro needle hneedle
    have hmem : needle ∈ ["the listener is not activated", "no tcp listener to remove",
        "no udp listener to remove", "could not remove route"] := by
      unfold goneTexts at hneedle
      split at hneedle <;> simp only [List.mem_cons, List.not_mem_nil, or_false] at hneedle ⊢ <;>
        tauto
    rw [h needle (by simp only [List.mem_cons] at hmem ⊢; tauto)]
    decide
  simp [saysGone, h, hgone]

/-- The failed request is a teardown of an object Sōzu does not hold. -/
def isAlreadyGone (request : RequestType) (failureMessage : String) : Bool :=
  request.isTeardown &&
    (workerSegments failureMessage).all (fun segment => isOk segment || saysGone request segment) &&
    (workerSegments failureMessage).any fun segment => !isOk segment && saysGone request segment

/-- A teardown settled as already gone is gone from the main process. -/
def goneFromMainProcess (failureMessage : String) : Bool :=
  startsWithText (toAsciiLowercase failureMessage) mainProcessRefusal ||
    (workerSegments failureMessage).any isOk

/-- The failed request is an add of an object Sōzu already holds. -/
def isDuplicateAdd (request : RequestType) (failureMessage : String) : Bool :=
  -- no character outside ASCII has a lower case spelled in one of these texts
  let message := toAsciiLowercase failureMessage
  match request with
  | .addUdpFrontend _ =>
      containsText message "already exist" ||
        containsText message "is already claimed by another frontend"
  | .addFrontend _ _ | .addTcpFrontend _ | .addTcpListener _ | .addUdpListener _ =>
      containsText message "already exist"
  | _ => false

/-- The replace was refused because its listener holds no certificate. -/
def isReplaceIntoEmptyListener (request : RequestType) (failureMessage : String) : Bool :=
  let message := toAsciiLowercase failureMessage
  match request with
  | .replaceCertificate _ =>
      startsWithText message mainProcessRefusal && containsText message "did not find certificate"
  | _ => false

end Agent

end SozuGateway
