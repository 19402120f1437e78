import MessageIntake.Settings.Environment
import MessageIntake.Span
/-!
# Settings of the broker

Which topics there are on which broker, and how they are consumed and produced to.
-/

namespace MessageIntake.Settings

/-- **Settings of the publisher of dead letters.** -/
structure LetterOutlet where
  brokers : String
  suffix : String
  timeout : Span
  deriving DecidableEq, Repr

/-- **Settings of the broker**, spans in milliseconds. -/
structure Broker where
  brokers : String
  groupId : String
  topic : String
  deadLetterSuffix : String
  /-- The number of workers, each a consumer of its own. -/
  concurrency : Nat
  autoOffsetReset : String
  sessionTimeout : Nat
  maxPollInterval : Nat
  producerTimeout : Nat
  createTopics : Bool
  topicPartitions : Int
  topicReplication : Int
  deriving DecidableEq, Repr

/-- **What is wrong with the settings of the broker.** -/
inductive BrokerFault where
  | variable (fault : VariableFault)
  | noWorkers
  | noSuffix
  deriving DecidableEq, Repr

/-- The wording of a fault. -/
def BrokerFault.message : BrokerFault → String
  | .variable fault => fault.message
  | .noWorkers => "KAFKA_CONSUMER_CONCURRENCY must be at least 1"
  | .noSuffix => "KAFKA_DEAD_LETTER_SUFFIX must not be empty"

namespace Broker

/-- The settings in an environment, before they are checked. -/
def unchecked (env : Environment) (concurrency : Nat) : Broker where
  brokers := env.textOr "KAFKA_BROKERS" "localhost:9092"
  groupId := env.textOr "KAFKA_GROUP_ID" "chat-ingest-consumer"
  topic := env.textOr "KAFKA_CHAT_MESSAGES_TOPIC" "chat-messages"
  deadLetterSuffix := env.textOr "KAFKA_DEAD_LETTER_SUFFIX" "-dead-letter"
  concurrency
  autoOffsetReset := env.textOr "KAFKA_AUTO_OFFSET_RESET" "latest"
  sessionTimeout := env.lenient .word32 "KAFKA_SESSION_TIMEOUT_MS" 30000
  maxPollInterval := env.lenient .word32 "KAFKA_MAX_POLL_INTERVAL_MS" 300000
  producerTimeout := env.lenient .word64 "KAFKA_PRODUCER_TIMEOUT_MS" 5000
  createTopics := env.lenient .truth "KAFKA_CREATE_TOPICS" false
  topicPartitions := env.lenient .signed32 "KAFKA_TOPIC_PARTITIONS" 3
  topicReplication := env.lenient .signed32 "KAFKA_TOPIC_REPLICATION" 1

/-- **The settings in an environment**: there is at least one worker, and letters do not go
to the topic that they come from. -/
def ofEnvironment? (env : Environment) : Except BrokerFault Broker :=
  match env.strict .word64 "KAFKA_CONSUMER_CONCURRENCY" 3 with
  | .error fault => .error (.variable fault)
  | .ok concurrency =>
    let settings := unchecked env concurrency
    if settings.concurrency = 0 then .error .noWorkers
    else if settings.deadLetterSuffix.isEmpty then .error .noSuffix
    else .ok settings

/-- The settings of the publisher of dead letters. -/
def letterOutlet (b : Broker) : LetterOutlet :=
  ⟨b.brokers, b.deadLetterSuffix, .ofMillis b.producerTimeout⟩

end Broker

end MessageIntake.Settings
