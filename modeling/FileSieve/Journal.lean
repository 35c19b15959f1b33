import FileSieve.Journal.Failure
import FileSieve.Journal.Level

/-!
# The journal

A journal keeps one channel per name, each with its least level and its number of outlets, and a
stack of context frames that all channels share. Without a name, a channel is the root. A line is
the message followed by the context: each key once, at the place where it first occurs, with the
value given last.

* `channel?_withChannel_self`, `channel?_withChannel_of_ne`: what is found after a channel was
  replaced or added.
* `reaches_iff_lines`: a line comes out exactly when its level reaches that of its channel.
* `leave_enter`: leaving a frame right after entering it changes nothing.
-/

namespace FileSieve

open Text

/-- What is listed under one name is no matter to what is found under another. -/
theorem lookup_filter_ne {α ν : Type} [BEq ν] [LawfulBEq ν] [DecidableEq ν] {name other : ν}
    (entries : List (ν × α)) (h : other ≠ name) :
    (entries.filter (·.1 ≠ name)).lookup other = entries.lookup other := by
  induction entries with
  | nil => rfl
  | cons head rest ih =>
    by_cases hhead : head.1 = name
    · rw [List.filter_cons_of_neg (by simp [hhead]), ih, List.lookup_cons,
        beq_eq_false_iff_ne.2 (hhead ▸ h)]
    · rw [List.filter_cons_of_pos (by simp [hhead]), List.lookup_cons, List.lookup_cons, ih]

namespace Journal

/-! ### Context -/

/-- Named values, in order. -/
abbrev Frame := List (List Char × Value)

/-- A frame with a value under a name: in the place of the former one, or at the end. -/
def Frame.put (name : List Char) (value : Value) : Frame → Frame
  | [] => [(name, value)]
  | (n, v) :: rest =>
    if n = name then (n, value) :: rest else (n, v) :: Frame.put name value rest

/-- A frame updated with all values of another. -/
def Frame.update (frame other : Frame) : Frame :=
  other.foldl (fun frame (name, value) => frame.put name value) frame

/-- The values of all frames of a stack, the outermost first. -/
def contextOf (frames : List Frame) : Frame :=
  frames.foldl Frame.update []

/-! ### Lines -/

/-- Something to be noted. -/
structure Event where
  /-- What happened. -/
  text : List Char
  /-- The circumstances. -/
  fields : Frame
  deriving Repr

/-- An event whose texts are known beforehand. -/
def Event.of (text : String) (fields : List (String × Value)) : Event :=
  ⟨text.toList, fields.map fun (name, value) => (name.toList, value)⟩

/-- A message with its context, unless a numeral is too long to be written. -/
def messageText? (text : List Char) (context : Frame) : Option (List Char) := do
  if context.isEmpty then return text
  else
    let pairs ← context.mapM fun (name, value) => do return name ++ '=' :: (← value.plain?)
    return text ++ " | ".toList ++ joinWith [' '] pairs

/-- A line: the level, the name of the channel, and the message. -/
def lineText (level : Level) (name message : List Char) : List Char :=
  level.name.toList ++ ' ' :: name ++ ' ' :: message

/-- The line of an event outside all frames. -/
def Event.line? (event : Event) (level : Level) (name : List Char) : Option (List Char) := do
  return lineText level name (← messageText? event.text event.fields)

/-! ### Channels -/

/-- The name of a channel. -/
structure ChannelName where
  /-- The name as it stands in lines. -/
  text : List Char
  text_ne_nil : text ≠ []
  deriving DecidableEq, Repr

/-- The channel that a name stands for: without a name, it is the root. -/
def ChannelName.of : List Char → ChannelName
  | [] => ⟨"root".toList, by decide⟩
  | c :: name => ⟨c :: name, List.cons_ne_nil c name⟩

/-- What a channel keeps. -/
structure Channel where
  /-- The least level of the lines it lets through. -/
  least : Level
  /-- How many outlets write each line. -/
  outlets : Nat
  deriving DecidableEq, Repr

end Journal

/-- The channels by name and the stack of context frames, innermost last. -/
structure Journal where
  /-- The channels. -/
  channels : List (Journal.ChannelName × Journal.Channel)
  /-- The frames that are open. -/
  frames : List Journal.Frame
  deriving Repr

namespace Journal

/-- A journal without channels and frames. -/
def empty : Journal := ⟨[], []⟩

/-- The name of a channel that is not given one. -/
def defaultName : List Char := "tagr".toList

/-- The size of a log file before it is replaced, in bytes. -/
def defaultFileSize : Nat := 10 * 1024 * 1024

/-- How many replaced log files are kept. -/
def defaultBackups : Nat := 5

variable (journal : Journal)

/-- The channel with a name. -/
def channel? (name : ChannelName) : Option Channel :=
  journal.channels.lookup name

/-- The journal with a channel replaced or added. -/
def withChannel (name : ChannelName) (channel : Channel) : Journal :=
  { journal with channels := (name, channel) :: journal.channels.filter (·.1 ≠ name) }

theorem channel?_withChannel_self {name : ChannelName} {channel : Channel} :
    (journal.withChannel name channel).channel? name = some channel :=
  List.lookup_cons_self

theorem channel?_withChannel_of_ne {name other : ChannelName} {channel : Channel}
    (h : other ≠ name) : (journal.withChannel name channel).channel? other =
      journal.channel? other := by
  rw [channel?, withChannel, List.lookup_cons, beq_eq_false_iff_ne.2 h]
  exact lookup_filter_ne journal.channels h

/-- Opens a channel anew, with a single outlet. -/
def openChannel (name : ChannelName) (least : Level) : Journal :=
  journal.withChannel name ⟨least, 1⟩

/-- Changes the least level of a channel. -/
def setLeast (name : ChannelName) (least : Level) : Journal :=
  match journal.channel? name with
  | some channel => journal.withChannel name { channel with least }
  | none => journal

/-- Gives a channel one more outlet. -/
def addOutlet (name : ChannelName) : Journal :=
  match journal.channel? name with
  | some channel => journal.withChannel name { channel with outlets := channel.outlets + 1 }
  | none => journal

/-- Does a channel let lines of a level through? -/
def isEnabled (name : ChannelName) (level : Level) : Bool :=
  (journal.channel? name).any fun channel => level.reaches channel.least

/-! ### Frames -/

/-- Enters a frame. -/
def enter (frame : Frame) : Journal :=
  { journal with frames := journal.frames ++ [frame] }

/-- Leaves the innermost frame. -/
def leave : Journal :=
  { journal with frames := journal.frames.dropLast }

/-- The context that lines get. -/
def context : Frame := contextOf journal.frames

theorem leave_enter (frame : Frame) : (journal.enter frame).leave = journal := by
  simp [leave, enter]

/-! ### Noting -/

/-- The message of an event in the context of a journal. -/
def message? (event : Event) : Option (List Char) :=
  messageText? event.text (journal.context.update event.fields)

/-- The lines that come out when an event is noted, one per outlet. -/
def note? (name : ChannelName) (level : Level) (event : Event) : Option (List (List Char)) := do
  match journal.channel? name with
  | none => return []
  | some channel =>
    if level.reaches channel.least then
      let message ← journal.message? event
      return List.replicate channel.outlets (lineText level name.text message)
    else return []

/-- An event with the kind and the message of a failure. -/
def failureEvent? (event : Event) (failure : Failure) : Option Event := do
  let fields := (event.fields.put "exception_type".toList (.text failure.kindName.toList)).put
    "exception_message".toList (.text (← failure.message?))
  return ⟨event.text, fields⟩

/-- The lines that come out when a failure is noted; its message is made up even if no line
comes out. -/
def noteFailure? (name : ChannelName) (event : Event) (failure : Failure) :
    Option (List (List Char)) := do
  let event ← failureEvent? event failure
  let _ ← journal.message? event
  journal.note? name .error event

/-- The line that a log file gets for a message, without the time at its front. -/
def fileLine (name : List Char) (level : Level) (message : List Char) : List Char :=
  " - ".toList ++ name ++ " - ".toList ++ level.name.toList ++ " - ".toList ++ message ++ ['\n']

/-- What a log file gets for an event: a line, or nothing if the channel does not let it through. -/
def fileText? (name : ChannelName) (level : Level) (event : Event) : Option (List Char) := do
  if journal.isEnabled name level then
    return fileLine name.text level (← journal.message? event)
  else return []

variable {journal}

theorem reaches_iff_lines {name : ChannelName} {level : Level} {event : Event} {channel : Channel}
    {lines : List (List Char)} (hchannel : journal.channel? name = some channel)
    (houtlets : channel.outlets ≠ 0) (hlines : journal.note? name level event = some lines) :
    level.reaches channel.least = true ↔ lines ≠ [] := by
  simp only [note?, hchannel] at hlines
  split at hlines
  · rename_i h
    obtain ⟨message, -, heq⟩ := Option.bind_eq_some_iff.1 hlines
    cases heq
    simp [h, houtlets]
  · rename_i h
    cases hlines
    simp [h]

end Journal

end FileSieve
