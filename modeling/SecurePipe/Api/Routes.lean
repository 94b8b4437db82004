import SecurePipe.Lib.Broadcast
import SecurePipe.Transport.Tasks

/-!
# SecurePipe.Api.Routes

The dashboard (`src/api/routes.rs`), from the broadcast channels to the lists on the page.

`GET /api/stream` subscribes to both channels and answers with one stream of messages
(`sse_stream`). The page prepends each message to one of two lists and cuts the list at its
bound. A browser may connect, lose the connection and connect again, and the server, the
network and the browser each take their time: what has been written to a response and not yet
read is lost with the connection. The values of a message, and not their text, are followed.

The broadcast channels of `tokio` are a parameter.
-/

namespace SecurePipe

open Broadcast

/-! ### The page -/

/-- `SsePayload`. -/
inductive SsePayload
  | reading (reading : SensorReading)
  | securityEvent (event : SecurityEvent)

namespace SsePayload

def reading? : SsePayload → Option SensorReading
  | reading r => some r
  | securityEvent _ => none

def securityEvent? : SsePayload → Option SecurityEvent
  | reading _ => none
  | securityEvent e => some e

end SsePayload

/-- A list on the page, from the top, and the flag that says that nothing has been put there.
`none` is the item that says so to the reader. -/
structure Feed (α : Type) where
  children : List (Option α)
  first : Bool

namespace Feed

variable {α : Type}

/-- As the page is loaded. -/
def initial : Feed α where
  children := [none]
  first := true

/-- What `onmessage` does to the list that a message is for, if it may have `max` items. -/
def prepend (max : Nat) (feed : Feed α) (x : α) : Feed α :=
  let children := if feed.first then [] else feed.children
  let children := some x :: children
  { first := false
    children := if children.length > max then children.dropLast else children }

/-- The messages that can be seen, newest first. -/
def shown (feed : Feed α) : List α := feed.children.filterMap id

end Feed

structure Page where
  readingsList : Feed SensorReading
  eventsList : Feed SecurityEvent
  /-- The dot and the text of the connection status. -/
  connected : Bool

namespace Page

def initial : Page where
  readingsList := .initial
  eventsList := .initial
  connected := false

/-- `es.onmessage`. -/
def onMessage (page : Page) : SsePayload → Page
  | .reading reading => { page with readingsList := page.readingsList.prepend 50 reading }
  | .securityEvent event => { page with eventsList := page.eventsList.prepend 30 event }

/-- `es.onopen`. -/
def onOpen (page : Page) : Page := { page with connected := true }

/-- `es.onerror`. -/
def onError (page : Page) : Page := { page with connected := false }

end Page

/-! ### The stream -/

variable (readings : Channels SensorReading) (events : Channels SecurityEvent)

/-- The response to `GET /api/stream`. -/
structure SseStream where
  readings : readings.Receiver
  events : events.Receiver

variable {readings events}

namespace SseStream

/-- `sse_stream`. -/
def subscribe (readingsTx : readings.Sender) (eventsTx : events.Sender) :
    SseStream readings events where
  readings := readings.subscribe readingsTx
  events := events.subscribe eventsTx

/-- The merged stream asks its first part, which leaves out what was missed. -/
def pollReadings (readingsTx : readings.Sender) (stream : SseStream readings events) :
    Option (List SsePayload × SseStream readings events) :=
  (readings.recv readingsTx stream.readings).map fun (received, readings) =>
    (received.toList.map .reading, { stream with readings })

/-- It asks its second part. -/
def pollEvents (eventsTx : events.Sender) (stream : SseStream readings events) :
    Option (List SsePayload × SseStream readings events) :=
  (events.recv eventsTx stream.events).map fun (received, events) =>
    (received.toList.map .securityEvent, { stream with events })

end SseStream

/-! ### A browser -/

variable (readings events) in
/-- A browser with the page open, and the response it reads from, if there is one. -/
structure Client where
  response : Option (SseStream readings events)
  /-- Written to the response and not yet read. -/
  inFlight : List SsePayload
  page : Page

inductive ClientAction
  /-- The page is loaded, or loaded again. -/
  | load
  /-- The browser connects, for the first time or after an error. -/
  | connect
  | pollReadings
  | pollEvents
  /-- The browser reads a message. -/
  | read
  /-- The connection is lost. -/
  | interrupt
  deriving DecidableEq

/-- The browser stays on the connection it has. -/
def ClientAction.stays : ClientAction → Bool
  | pollReadings => true
  | pollEvents => true
  | read => true
  | load => false
  | connect => false
  | interrupt => false

namespace Client

/-- As the page is loaded. -/
def initial : Client readings events where
  response := none
  inFlight := []
  page := .initial

/-- What was polled is written to the response. -/
def write (client : Client readings events) :
    Option (List SsePayload × SseStream readings events) → Client readings events
  | some (messages, stream) =>
      { client with response := some stream, inFlight := client.inFlight ++ messages }
  | none => client

def act (readingsTx : readings.Sender) (eventsTx : events.Sender)
    (client : Client readings events) : ClientAction → Client readings events
  | .load => .initial
  | .connect =>
      { response := some (.subscribe readingsTx eventsTx)
        inFlight := []
        page := client.page.onOpen }
  | .pollReadings => client.write (client.response.bind (·.pollReadings readingsTx))
  | .pollEvents => client.write (client.response.bind (·.pollEvents eventsTx))
  | .read =>
      match client.inFlight with
      | message :: inFlight => { client with inFlight, page := client.page.onMessage message }
      | [] => client
  | .interrupt => { response := none, inFlight := [], page := client.page.onError }

/-- The browser is connected and has read everything there is. -/
def caughtUp (readingsTx : readings.Sender) (eventsTx : events.Sender)
    (client : Client readings events) : Bool :=
  client.inFlight.isEmpty && client.response.any fun stream =>
    (readings.recv readingsTx stream.readings).isNone &&
      (events.recv eventsTx stream.events).isNone

end Client

/-! ### The gateway and its browsers -/

variable (readings events) in
/-- The gateway, its two channels, and all browsers. -/
structure Served where
  system : System
  readingsTx : readings.Sender
  eventsTx : events.Sender
  clients : Nat → Client readings events

inductive ServedAction
  | gateway (action : Action)
  | client (c : Nat) (action : ClientAction)

namespace Served

/-- `main` has started the gateway. -/
def start (key : SessionKey) (registry : DeviceRegistry) : Served readings events where
  system := .start key registry
  readingsTx := readings.channel 64
  eventsTx := events.channel 64
  clients := fun _ => .initial

variable (ring : Ring)

/-- A step of the gateway sends what it adds to its lists. -/
def step (s : Served readings events) : ServedAction → Served readings events
  | .gateway action =>
      let system := (s.system.step ring action).1
      { s with
        system := system
        readingsTx := readings.sendAll s.readingsTx
          (system.gateway.readingsTx.drop s.system.gateway.readingsTx.length)
        eventsTx := events.sendAll s.eventsTx
          (system.gateway.eventsTx.drop s.system.gateway.eventsTx.length) }
  | .client c action =>
      let client := (s.clients c).act s.readingsTx s.eventsTx action
      { s with clients := Function.update s.clients c client }

end Served

variable (readings events) in
/-- The gateway and its browsers, in any order. -/
def servedMachine (ring : Ring) : Machine (Served readings events) ServedAction Unit where
  step s action := (s.step ring action, ())

end SecurePipe
