import TaskQueue.Error
import TaskQueue.Result.Body

/-!
# `TaskQueue.Result.Message`: messages that carry a result

A result arrives as bytes with a content type. Only JSON is taken; a message of any other type
is malformed, and so is one whose bytes are not the body of a result.
-/

set_option autoImplicit false

namespace TaskQueue

/-- The content type of envelopes and results. -/
def jsonContentType : String := "application/json"

/-- A message from the result backend. -/
structure ResultMessage where
  contentType : Option String
  body : Bytes
deriving DecidableEq, Repr, Inhabited

namespace ResultMessage

/-- A message with a JSON body. -/
def ofJsonBytes (body : Bytes) : ResultMessage := ⟨some jsonContentType, body⟩

/-- A message with a JSON text. -/
def ofJsonText (s : String) : ResultMessage := ofJsonBytes (Utf8.encode s)

/-- What is wrong with the content type, if anything is. -/
def mistyped? (m : ResultMessage) : Option String :=
  if m.contentType = some jsonContentType then none
  else some ("response was not encoded using JSON - found " ++
    m.contentType.getD "no content type" ++ " - check the worker's result serializer setting")

/-- Checks the content type. -/
def validate (m : ResultMessage) : Except Error Unit :=
  match m.mistyped? with
  | none => .ok ()
  | some reason => .error (.malformedResult reason)

/-- Checks the content type and reads the body. -/
def decode (m : ResultMessage) : Except Error ResultBody :=
  match m.validate with
  | .error e => .error e
  | .ok () =>
    match Decode.bytes ResultBody.decode m.body with
    | .ok b => .ok b
    | .error f => .error (.malformedResult ("undecodable result body: " ++ f.message))

/-- A message that cannot be decoded is malformed. -/
theorem decode_error {m : ResultMessage} {e : Error} (h : m.decode = .error e) :
    ∃ reason, e = .malformedResult reason := by
  cases hm : m.mistyped? with
  | some reason =>
    simp only [decode, validate, hm, Except.error.injEq] at h
    exact ⟨reason, h.symm⟩
  | none =>
    cases hd : Decode.bytes ResultBody.decode m.body with
    | ok b => simp [decode, validate, hm, hd] at h
    | error f =>
      simp only [decode, validate, hm, hd, Except.error.injEq] at h
      exact ⟨_, h.symm⟩

/-- The body as text, with U+FFFD for what is none. -/
def bodyText (m : ResultMessage) : String := Utf8.decodeLossy m.body

/-- The message of a task that succeeded. -/
def success (result : Json) : ResultMessage :=
  ofJsonText (Json.object [("result", result), ("status", .string TaskState.successStatus)]).text

/-- The message of a task that divided by zero. -/
def failure (traceback : String) : ResultMessage :=
  ofJsonText (Json.object [
    ("result", .object [("exc_message", .string "division by zero"),
      ("exc_type", .string "ZeroDivisionError")]),
    ("status", .string "FAILURE"),
    ("traceback", .string traceback)]).text

end ResultMessage
end TaskQueue
