/-
  What can go wrong inside of a callback.

  Such an error never reaches the thread that controls the stream.  It tells the callback that the
  application produced nothing, or dropped what was captured.
-/
import PcmStream.View.Error

namespace PcmStream

/-- Errors raised by the application's logic inside of a callback. -/
inductive CallbackError
  /-- No data was ready to be produced or consumed. -/
  | notReady
  /-- The application's logic failed for a reason of its own. -/
  | failed (reason : String)
  /-- An access to the view failed. -/
  | view (error : ViewError)
  deriving DecidableEq, Repr

/-- The text of the error. -/
def CallbackError.message : CallbackError → String
  | notReady => "no data ready"
  | failed reason => "callback failed: " ++ reason
  | view error => "buffer error: " ++ error.message

end PcmStream
