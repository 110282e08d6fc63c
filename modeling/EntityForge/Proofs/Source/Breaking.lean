import EntityForge.Proofs.Breaking
import EntityForge.Source.File
import EntityForge.Source.Project
import EntityForge.Source.Web
import Mathlib

/-! # How getting a document breaks down

A document comes from a file, a project or the web.  Most of what can be wrong there is foreseen and
fails as a fault of the source; for each source there is a list of what is not, on any machine and
for any answer from the web.
-/

namespace EntityForge.Source

variable {machine : Machine} {path directory : Path} {ending url : Text} {cause : Breakdown}

/-- A file breaks the operation that reads it: its path cannot be looked at, or reading it fails for
a cause that is no fault of the system. -/
inductive FileBreaks (machine : Machine) (path : Path) : Breakdown → Prop
  | unreachable {cause : Breakdown} (hHas : machine.has path = .error cause) :
      FileBreaks machine path cause
  | unreadable {cause : Breakdown} (hHas : machine.has path = .ok true)
      (hRead : machine.read path = .error cause) (hForeign : ∀ fault, cause ≠ .file fault) :
      FileBreaks machine path cause

theorem ofFile_eq_breakdown_iff :
    ofFile machine path = .error (.breakdown cause) ↔ FileBreaks machine path cause := by
  constructor
  · intro h
    unfold ofFile at h
    split at h
    · next hHas =>
        cases h
        exact .unreachable hHas
    · cases h
    · next hHas =>
        split at h
        · cases h
        · next hOther hRead =>
            cases h
            exact .unreadable hHas hRead fun fault hFault => hOther fault hFault
        · split at h <;> cases h
  · rintro (hHas | ⟨hHas, hRead, hForeign⟩)
    · simp only [ofFile, hHas]
    · simp only [ofFile, hHas, hRead]

/-- A project breaks the operation that looks for its document: its directory cannot be looked at,
the search in it breaks off, or the file that is found breaks the operation. -/
inductive ProjectBreaks (machine : Machine) (directory : Path) (ending : Text) : Breakdown → Prop
  | directory {cause : Breakdown} (hDirectory : machine.hasDirectory directory = .error cause) :
      ProjectBreaks machine directory ending cause
  | search {cause : Breakdown} (hDirectory : machine.hasDirectory directory = .ok true)
      (hSearch : machine.search directory (.char '*' :: ending) = .error cause) :
      ProjectBreaks machine directory ending cause
  | document {path : Path} {cause : Breakdown}
      (hFound : findFile machine directory ending = .ok (some path))
      (hFile : FileBreaks machine path cause) : ProjectBreaks machine directory ending cause

theorem findFile_eq_breakdown_iff :
    findFile machine directory ending = .error (.breakdown cause) ↔
      machine.hasDirectory directory = .error cause ∨
        machine.hasDirectory directory = .ok true ∧
          machine.search directory (.char '*' :: ending) = .error cause := by
  rw [findFile]
  rcases machine.hasDirectory directory with fault | _ | _
  · simp
  · simp
  · cases machine.search directory (.char '*' :: ending) <;> simp

/-- An address breaks the operation that asks for its document: it cannot be taken apart, the
request is refused before it is sent or ends for a cause that is foreign to requests, or the answer
has no text. -/
inductive AddressBreaks (url : Text) : Response → Breakdown → Prop
  | address {response : Response} {fault : UrlFault} (hUrl : Url.isComplete url = .error fault) :
      AddressBreaks url response (.url fault)
  | refused (hUrl : Url.isComplete url = .ok true) :
      AddressBreaks url (.failed .refused) .noStatus
  | foreign {cause : Breakdown} (hUrl : Url.isComplete url = .ok true) :
      AddressBreaks url (.failed (.foreign cause)) cause
  | body {status : Int} {cause : Breakdown} (hUrl : Url.isComplete url = .ok true)
      (hStatus : isErrorStatus status = false) :
      AddressBreaks url (.answered status (.error cause)) cause

theorem fetch_eq_breakdown_iff {response : Response} :
    fetch url response = .error (.breakdown cause) ↔ AddressBreaks url response cause := by
  constructor
  · intro h
    unfold fetch at h
    split at h
    · next hUrl =>
        cases h
        exact .address hUrl
    · cases h
    · next hUrl =>
        split at h
        · cases h
        · cases h
        · cases h
          exact .refused hUrl
        · cases h
        · cases h
          exact .foreign hUrl
        · next status body =>
            split at h
            · cases h
            · next hStatus =>
                obtain ⟨_, rfl, ⟨⟩⟩ := mapError_eq_error_iff.mp h
                exact .body hUrl (eq_false_of_ne_true hStatus)
  · rintro (hUrl | hUrl | hUrl | ⟨hUrl, hStatus⟩)
    · simp only [fetch, hUrl]
    · simp only [fetch, hUrl]
    · simp only [fetch, hUrl]
    · simp only [fetch, hUrl, hStatus, Bool.false_eq_true, if_false]
      rfl

end EntityForge.Source
