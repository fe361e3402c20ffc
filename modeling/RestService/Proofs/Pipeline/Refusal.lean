import RestService.Pipeline.Application
import RestService.Proofs.Collection.Shape
import RestService.Proofs.Collection.Store

set_option autoImplicit false

namespace RestService

theorem Fault.status_response (fault : Fault) : fault.response.status = fault.status := by
  have sentence (signal : StatusSignal) : signal.response.status = signal.status := by
    unfold StatusSignal.response
    split <;> rfl
  cases fault with
  | signal signal => exact sentence signal
  | action error =>
    cases error with
    | status signal => exact sentence signal
    | _ => rfl
  | _ => rfl

def SourceError.IsHeader (error : SourceError) : Prop := ∃ text reason, error = .header text reason

theorem isHeader_of_parseListHeaderLower {header : String} {error : SourceError}
    (failed : parseListHeaderLower header = .error error) : error.IsHeader := by
  rw [parseListHeaderLower, Result.map_eq_error] at failed
  unfold parseListHeader at failed
  split at failed
  · cases failed
  · exact ⟨_, _, (Except.error.inj failed).symm⟩

theorem isHeader_of_parseContentType {header : String} {error : SourceError}
    (failed : parseContentType header = .error error) : error.IsHeader := by
  rcases Result.bind_eq_error.1 failed with malformed | ⟨items, -, here⟩
  · exact isHeader_of_parseListHeaderLower malformed
  · split at here
    · unfold MediaType.ofItem at here
      simp only at here
      split at here
      · cases here
      · exact ⟨_, _, (Except.error.inj here).symm⟩
    · exact ⟨_, _, (Except.error.inj here).symm⟩

/-- An error of a body that has been sent. -/
def CodecError.IsInbound (error : CodecError) : Prop :=
  ∀ format reason, error ≠ .unformattable format reason

theorem isInbound_malformed (format reason : String) :
    CodecError.IsInbound (.malformed format reason) := fun _ _ => CodecError.noConfusion

theorem isInbound_of_decodeText {charset : String} {bytes : ByteArray} {error : CodecError}
    (failed : decodeText charset bytes = .error error) : error.IsInbound := by
  rcases Result.bind_eq_error.1 failed with unknown | ⟨known, -, here⟩
  · unfold Charset.ofName at unknown
    split at unknown
    · cases unknown
    · cases unknown
      exact fun _ _ => CodecError.noConfusion
  · unfold Charset.decode at here
    split at here
    · split at here
      · cases here
      · cases here
        exact isInbound_malformed _ _
    · split at here
      · cases here
        exact isInbound_malformed _ _
      · cases here
    · cases here

theorem isInbound_of_parse {codec : Codec} {cx : CodecContext} {charset? : Option String}
    {body : ByteArray} {error : CodecError}
    (failed : codec.parse cx charset? body = .error error) : error.IsInbound := by
  cases codec with
  | xml =>
    rcases Result.bind_eq_error.1 failed with unread | ⟨text, -, here⟩
    · exact isInbound_of_decodeText unread
    · split at here
      · cases here
      · cases here
        exact isInbound_malformed _ _
  | yaml =>
    rcases Result.bind_eq_error.1 failed with unread | ⟨text, -, here⟩
    · exact isInbound_of_decodeText unread
    · split at here
      · cases here
        exact isInbound_malformed _ _
      · split at here
        · cases here
          exact isInbound_malformed _ _
        · cases here
  | json =>
    rcases Result.bind_eq_error.1 failed with unread | ⟨text, -, here⟩
    · exact isInbound_of_decodeText unread
    · split at here
      · cases here
        exact isInbound_malformed _ _
      · split at here
        · cases here
          exact isInbound_malformed _ _
        · cases here

namespace Fault

theorem isClientError_source {error : SourceError} (header : error.IsHeader) :
    (Fault.source error).isClientError = true := by
  obtain ⟨text, reason, rfl⟩ := header
  rfl

theorem isClientError_codec {error : CodecError} (inbound : error.IsInbound) :
    (Fault.codec error).isClientError = true := by
  cases error with
  | unformattable format reason => exact absurd rfl (inbound format reason)
  | _ => rfl

theorem isClientError_transform {error : TransformError} (external : Transform.IsExternal error) :
    (Fault.transform error).isClientError = true := by
  cases error with
  | untyped path => exact absurd rfl (external path)
  | _ => rfl

end Fault

namespace Standard

variable {σ : Type} {cx : Context σ} {fault : Fault}

theorem isClientError_checkMethod {input : Entity} (failed : checkMethod cx input = .error fault) :
    fault.isClientError = true := by
  unfold checkMethod at failed
  split at failed
  · cases failed
  · cases failed
    unfold refusal
    simp only
    split <;> rfl

theorem isClientError_refuseEntity {input : Entity} (failed : refuseEntity input = .error fault) :
    fault.isClientError = true := by
  unfold refuseEntity at failed
  split at failed
  · cases failed
  · cases failed
    rfl

theorem isClientError_parseBody {body : ByteArray} (failed : parseBody cx body = .error fault) :
    fault.isClientError = true := by
  unfold parseBody at failed
  split at failed
  · rcases Result.bind_eq_error.1 failed with illegal | ⟨mediaType, -, here⟩
    · unfold Context.ofSource at illegal
      split at illegal
      · cases illegal
      · rename_i found
        cases illegal
        exact Fault.isClientError_source (isHeader_of_parseContentType found)
    · simp only at here
      split at here
      · cases here
        rfl
      · split at here
        · cases here
          rfl
        · split at here
          · cases here
          · rename_i found
            cases here
            exact Fault.isClientError_codec (isInbound_of_parse found)
  · cases failed
    rfl

theorem isClientError_parseEntity {input : Entity} (failed : parseEntity cx input = .error fault) :
    fault.isClientError = true := by
  unfold parseEntity at failed
  split at failed
  · exact isClientError_parseBody (Result.map_eq_error.1 failed)
  · exact isClientError_parseBody (Result.map_eq_error.1 failed)
  · cases failed

theorem isClientError_inputRefusal (cx : Context σ) (message : String) :
    (inputRefusal cx message).isClientError = true := by
  unfold inputRefusal
  split <;> rfl

theorem isClientError_internalize {input : Entity} (failed : internalize cx input = .error fault) :
    fault.isClientError = true := by
  unfold internalize at failed
  split at failed
  · split at failed
    · cases failed
    · cases failed
      exact isClientError_inputRefusal cx _
    · rename_i found
      cases failed
      exact Fault.isClientError_transform (Transform.isExternal_of_forward found)
  · cases failed

/-- Errors of stores stay the client's through the handlers. -/
theorem isClientError_invalidInput {error : ActionError} (refuses : Store.Refuses error) :
    (invalidInput cx (missingRecord (.action error))).isClientError = true := by
  rcases refuses with ⟨what, rfl⟩ | ⟨reason, rfl⟩
  · rfl
  · exact isClientError_inputRefusal cx reason

end Standard

end RestService
