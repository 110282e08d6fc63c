import EntityForge.Failure
import EntityForge.Source.Encoding

/-! # Documents from the web

A document is requested from an address. The request may come to nothing, also in ways that are not
foreseen; a response with the status of an error gives no document either. Otherwise the body is the
document, decoded as the response says, or as UTF-8 if it does not say.
-/

namespace EntityForge

/-- Why a request comes to nothing. The errors of requests are foreseen; a cause that is `foreign`
to them is not. -/
inductive RequestError
  | timeout
  | connection
  | refused
  | other (reason : Text)
  | foreign (cause : Breakdown)
  deriving DecidableEq, Repr

/-- What becomes of a request: an error, or an answer with its status and the text of its body, if
there is such a text. -/
inductive Response
  | failed (error : RequestError)
  | answered (status : Int) (body : Except Breakdown Text)

namespace Source

/-- The encoding of a response that names one, or names none. -/
def encodingOf : Option Text → Except Breakdown Encoding
  | none => .ok .utf8
  | some name =>
      match Utf8.surrogateRun? name with
      | some run => .error (.unencodable run)
      | none =>
          if name.any fun p => p.toNat = 0 then .error .nullInName
          else .ok ((Encoding.ofName? name).getD .utf8)

/-- The text of a body. An empty body is decoded without regard to its encoding. -/
def decodeBody (encoding : Option Text) (body : Bytes) : Except Breakdown Text :=
  if body.isEmpty then .ok []
  else
    match encodingOf encoding with
    | .error cause => .error cause
    | .ok known => (known.decode body).mapError (.encoding (encoding.getD []))

/-- The answer with a status, the name of an encoding and a body. -/
def answerOf (status : Int) (encoding : Option Text) (body : Bytes) : Response :=
  .answered status (decodeBody encoding body)

/-- Is it the status of an error? -/
def isErrorStatus (status : Int) : Bool := 400 ≤ status && status < 600

/-- The document that a response to a request for an address holds. -/
def fetch (url : Text) (response : Response) : Except Failure Text :=
  match Url.isComplete url with
  | .error fault => .error (.breakdown (.url fault))
  | .ok false => .error (.source (.invalidUrl url))
  | .ok true =>
      match response with
      | .failed .timeout => .error (.source (.timeout url))
      | .failed .connection => .error (.source (.connection url))
      | .failed .refused => .error (.breakdown .noStatus)
      | .failed (.other reason) => .error (.source (.request url reason))
      | .failed (.foreign cause) => .error (.breakdown cause)
      | .answered status body =>
          if isErrorStatus status then .error (.source (.status url status))
          else body.mapError .breakdown

end Source

end EntityForge
