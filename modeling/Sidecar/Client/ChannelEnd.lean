/-
# The end of a channel

Reading from the server ends once: because the server closed the channel, or
because a read failed.
-/
import Sidecar.Frame.Basic

namespace Sidecar

/-- Why reading from the server ended. -/
inductive ChannelEnd where
  | closed
  | failed (cause : Frame.Error)
  deriving DecidableEq, Repr

def ChannelEnd.message : ChannelEnd → String
  | .closed => "closed by the server"
  | .failed cause => s!"read failed: {cause.message}"

/-- The message without what is wrong with the body of a frame. -/
def ChannelEnd.brief : ChannelEnd → String
  | .failed cause => s!"read failed: {cause.brief}"
  | e => e.message

end Sidecar
