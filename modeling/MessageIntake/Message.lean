import MessageIntake.Json
import MessageIntake.Timestamp
/-!
# Messages

The row that an accepted event becomes, and what storing an event comes to.
-/

namespace MessageIntake

/-- **A stored message.** Its number `seqNo` counts the messages of its conversation. -/
structure Message where
  id : Int
  eventId : String
  clientMsgId : Option String
  conversationId : String
  senderId : String
  recipientId : Option String
  content : String
  attachmentUrl : Option String
  seqNo : Int
  createdAt : Timestamp
  readAt : Option Timestamp
  deletedAt : Option Timestamp
  deriving DecidableEq, Repr

/-- **What storing an event comes to**: the row, and whether it had been there before. -/
structure Outcome where
  message : Message
  duplicate : Bool
  deriving DecidableEq, Repr

end MessageIntake
