import FileSieve.Proofs.Journal.Context
import Mathlib.Logic.Function.Basic

/-!
# The scope of a frame

All channels share one stack of frames. A program enters a frame for a block and leaves it again
when the block ends, in whichever way it does. Therefore the frames that are open at a call are
those of the blocks around it in the text of the program, and its line can be told from these:
`Runs` says what a program does without a stack, and `Program.run` does it with one.

* `Call.lines?_eq_some_iff`, `Call.lines?_eq_none_iff`: what comes of a call.
* `Program.frames_run`: a program leaves the stack as it was.
* `runs_run`, `Runs.eq_run`: a program does what is said of it without a stack, and nothing else.
* `scoped_run`: both of these.
* `not_line_of_call`: not every call whose level reaches that of its channel has a line, and a line
  about a failure says more than the blocks and the call itself.
-/

namespace FileSieve.Journal

open Text

/-! ### Calls -/

/-- A call that notes something in a channel. -/
inductive Call where
  /-- An event is noted. -/
  | note (level : Level) (event : Event)
  /-- A failure is noted together with an event. -/
  | noteFailure (event : Event) (failure : Failure)

namespace Call

/-- The level of a call. -/
def level : Call → Level
  | note level _ => level
  | noteFailure _ _ => .error

/-- The event that is given in a call. -/
def given : Call → Event
  | note _ event => event
  | noteFailure event _ => event

/-- The event that a call notes: a failure adds its kind and its message to the one given. -/
def event? : Call → Option Event
  | note _ event => some event
  | noteFailure event failure => failureEvent? event failure

/-- Is the message made up even if no line comes out? -/
def isEager : Call → Bool
  | note _ _ => false
  | noteFailure _ _ => true

/-- There is a channel of the name, and the level of the call reaches that of the channel. -/
def Reaches (call : Call) (channels : ChannelName → Option Channel) (name : ChannelName) : Prop :=
  ∃ channel, channels name = some channel ∧ channel.least.number ≤ call.level.number

/-- The lines that come out, unless something cannot be written. -/
def lines? (journal : Journal) (name : ChannelName) : Call → Option (List (List Char))
  | note level event => journal.note? name level event
  | noteFailure event failure => journal.noteFailure? name event failure

/-- What a call says in some frames. -/
def Says (call : Call) (frames : List Frame) (message : List Char) : Prop :=
  ∃ event, call.event? = some event ∧ event.Says frames message

variable {call : Call} {journal : Journal} {name : ChannelName} {message : List Char}
  {channel : Channel}

theorem says_iff : call.Says journal.frames message ↔
    call.event?.bind journal.message? = some message := by
  simp only [Says, Event.says_iff, Option.bind_eq_some_iff]
  rfl

/-- A failure is noted when its event has a message, and its lines are those of that. -/
theorem noteFailure?_eq {event : Event} {failure : Failure} {lines : List Char → List (List Char)}
    (h : ∀ event message, journal.message? event = some message →
      journal.note? name .error event = some (lines message)) :
    journal.noteFailure? name event failure =
      ((failureEvent? event failure).bind journal.message?).map lines := by
  change (failureEvent? event failure).bind (fun event =>
    (journal.message? event).bind fun _ => journal.note? name .error event) = _
  cases failureEvent? event failure with
  | none => rfl
  | some event =>
    rw [Option.bind_some, Option.bind_some]
    cases hmessage : journal.message? event with
    | none => rfl
    | some message => exact h event message hmessage

/-- The lines of a call whose level reaches that of the channel. -/
theorem lines?_of_reaches (hchannel : journal.channel? name = some channel)
    (hreaches : channel.least.number ≤ call.level.number) : call.lines? journal name =
      (call.event?.bind journal.message?).map fun message =>
        List.replicate channel.outlets (lineText call.level name.text message) := by
  have hnote (event : Event) : journal.note? name call.level event =
      (journal.message? event).map fun message =>
        List.replicate channel.outlets (lineText call.level name.text message) := by
    rw [note?, hchannel]
    exact (if_pos (decide_eq_true hreaches)).trans Option.map_eq_bind.symm
  cases call with
  | note level event => exact hnote event
  | noteFailure event failure =>
    refine noteFailure?_eq fun event message hmessage => ?_
    rw [show journal.note? name .error event = _ from hnote event, hmessage]
    rfl

/-- The lines of a call whose level does not reach that of the channel. -/
theorem lines?_of_not_reaches (h : ¬ call.Reaches journal.channel? name) :
    call.lines? journal name =
      if call.isEager then (call.event?.bind journal.message?).map fun _ => [] else some [] := by
  have hnote (event : Event) : journal.note? name call.level event = some [] := by
    unfold note?
    split
    · rfl
    · rename_i channel hchannel
      exact if_neg fun hreaches => h ⟨channel, hchannel, of_decide_eq_true hreaches⟩
  cases call with
  | note level event => exact hnote event
  | noteFailure event failure => exact noteFailure?_eq fun event _ _ => hnote event

/-- **What comes of a call whose messages can be written**: a line at each outlet if its level
reaches that of the channel, and otherwise none. -/
theorem lines?_eq_some_iff {lines : List (List Char)} : call.lines? journal name = some lines ↔
    (∃ channel message, journal.channel? name = some channel ∧
      channel.least.number ≤ call.level.number ∧ call.Says journal.frames message ∧
      List.replicate channel.outlets (lineText call.level name.text message) = lines) ∨
    ¬ call.Reaches journal.channel? name ∧
      (call.isEager = true → ∃ message, call.Says journal.frames message) ∧ lines = [] := by
  simp only [says_iff]
  by_cases hreaches : call.Reaches journal.channel? name
  · obtain ⟨channel, hchannel, hleast⟩ := hreaches
    rw [lines?_of_reaches hchannel hleast, Option.map_eq_some_iff,
      or_iff_left fun h => h.1 ⟨channel, hchannel, hleast⟩]
    constructor
    · rintro ⟨message, hmessage, hlines⟩
      exact ⟨channel, message, hchannel, hleast, hmessage, hlines⟩
    · rintro ⟨other, message, hother, -, hmessage, hlines⟩
      cases hchannel.symm.trans hother
      exact ⟨message, hmessage, hlines⟩
  · rw [lines?_of_not_reaches hreaches, and_iff_right hreaches, or_iff_right]
    · cases call.isEager <;> cases call.event?.bind journal.message? <;> simp [eq_comm]
    · rintro ⟨channel, -, hchannel, hleast, -⟩
      exact hreaches ⟨channel, hchannel, hleast⟩

/-- A call fails when a message is needed that cannot be written. -/
theorem lines?_eq_none_iff : call.lines? journal name = none ↔
    (call.isEager = true ∨ call.Reaches journal.channel? name) ∧
      ¬ ∃ message, call.Says journal.frames message := by
  simp only [says_iff, not_exists, ← ne_eq, ← Option.eq_none_iff_forall_ne_some]
  by_cases hreaches : call.Reaches journal.channel? name
  · obtain ⟨channel, hchannel, hleast⟩ := hreaches
    rw [lines?_of_reaches hchannel hleast, Option.map_eq_none_iff]
    exact (and_iff_right (.inr ⟨channel, hchannel, hleast⟩)).symm
  · rw [lines?_of_not_reaches hreaches, or_iff_left hreaches]
    cases call.isEager <;> simp

end Call

/-! ### Programs -/

/-- A program that keeps a journal. -/
inductive Program where
  /-- Nothing is done. -/
  | skip
  /-- The program fails. -/
  | raise
  /-- Something is noted in a channel. -/
  | note (name : List Char) (call : Call)
  /-- A channel is opened anew; the least level is given by its name. -/
  | openChannel (name least : List Char)
  /-- The least level of a channel is changed. -/
  | setLeast (name least : List Char)
  /-- A block in a frame, whichever channel enters it. -/
  | block (frame : Frame) (body : Program)
  /-- If the body fails, the handler follows. -/
  | attempt (body handler : Program)
  /-- One program after the other, unless the first fails. -/
  | seq (first second : Program)

/-- How a program ends. -/
inductive Ending where
  | returned
  | raised
  deriving DecidableEq, Repr

/-- What has become of a program. -/
structure Result where
  /-- The journal afterwards. -/
  journal : Journal
  /-- The lines that came out. -/
  lines : List (List Char)
  /-- How the program ended. -/
  ending : Ending

namespace Result

/-- What has become of a single step: it fails if nothing comes of it. -/
def ofStep (journal : Journal) : Option (Journal × List (List Char)) → Result
  | some (after, lines) => ⟨after, lines, .returned⟩
  | none => ⟨journal, [], .raised⟩

/-- What has become of a program that goes on if its first part ended in a certain way. -/
def andThen (first : Result) (ending : Ending) (next : Journal → Result) : Result :=
  if first.ending = ending then
    { next first.journal with lines := first.lines ++ (next first.journal).lines }
  else first

variable {first : Result} {ending : Ending} {next : Journal → Result}

theorem andThen_of_eq (h : first.ending = ending) : first.andThen ending next =
    { next first.journal with lines := first.lines ++ (next first.journal).lines } :=
  if_pos h

theorem andThen_of_ne (h : first.ending ≠ ending) : first.andThen ending next = first :=
  if_neg h

end Result

/-- Runs a program. The frame of a block is left in whichever way the block ends. -/
def Program.run : Program → Journal → Result
  | skip, journal => ⟨journal, [], .returned⟩
  | raise, journal => ⟨journal, [], .raised⟩
  | note name call, journal =>
    .ofStep journal ((call.lines? journal (.of name)).map fun lines => (journal, lines))
  | openChannel name least, journal =>
    .ofStep journal
      ((Level.ofName? least).map fun least => (journal.openChannel (.of name) least, []))
  | setLeast name least, journal =>
    .ofStep journal ((Level.ofName? least).map fun least => (journal.setLeast (.of name) least, []))
  | block frame body, journal =>
    let done := body.run (journal.enter frame)
    { done with journal := done.journal.leave }
  | attempt body handler, journal => (body.run journal).andThen .raised handler.run
  | seq first second, journal => (first.run journal).andThen .returned second.run

section Equations

variable {journal : Journal} {name word : List Char} {call : Call} {body handler : Program}
  {first second : Program}

theorem Program.run_note : (note name call).run journal =
    .ofStep journal ((call.lines? journal (.of name)).map fun lines => (journal, lines)) := rfl

theorem Program.run_openChannel : (openChannel name word).run journal = .ofStep journal
    ((Level.ofName? word).map fun least => (journal.openChannel (.of name) least, [])) := rfl

theorem Program.run_setLeast : (setLeast name word).run journal = .ofStep journal
    ((Level.ofName? word).map fun least => (journal.setLeast (.of name) least, [])) := rfl

theorem Program.run_attempt : (attempt body handler).run journal =
    (body.run journal).andThen .raised handler.run := rfl

theorem Program.run_seq : (seq first second).run journal =
    (first.run journal).andThen .returned second.run := rfl

end Equations

theorem frames_setLeast {journal : Journal} {name : ChannelName} {least : Level} :
    (journal.setLeast name least).frames = journal.frames := by
  unfold Journal.setLeast
  split <;> rfl

theorem Result.frames_andThen {first : Result} {ending : Ending} {next : Journal → Result}
    (h : ∀ journal, (next journal).journal.frames = journal.frames) :
    (first.andThen ending next).journal.frames = first.journal.frames := by
  by_cases hending : first.ending = ending
  · rw [andThen_of_eq hending]
    exact h first.journal
  · rw [andThen_of_ne hending]

/-- **A program leaves the stack of frames as it was**, in whichever way it ends. -/
theorem Program.frames_run (program : Program) (journal : Journal) :
    (program.run journal).journal.frames = journal.frames := by
  induction program generalizing journal with
  | skip | raise => rfl
  | note name call =>
    rw [run_note]
    cases call.lines? journal (.of name) <;> rfl
  | openChannel name word =>
    rw [run_openChannel]
    cases Level.ofName? word <;> rfl
  | setLeast name word =>
    rw [run_setLeast]
    cases Level.ofName? word with
    | none => rfl
    | some least => exact frames_setLeast
  | block frame body ih =>
    change (body.run (journal.enter frame)).journal.frames.dropLast = _
    rw [ih]
    exact List.dropLast_concat
  | attempt body handler hbody hhandler =>
    exact (Result.frames_andThen hhandler).trans (hbody journal)
  | seq first second hfirst hsecond =>
    exact (Result.frames_andThen hsecond).trans (hfirst journal)

/-! ### Programs without a stack -/

/-- The channels by name. -/
abbrev Channels := ChannelName → Option Channel

/-- What a program does in some frames: the channels before and afterwards, the lines that come out,
and how it ends. The frames at a call are those of the blocks around it. -/
inductive Runs : List Frame → Program → Channels → Channels → List (List Char) → Ending → Prop
  | skip {frames channels} : Runs frames .skip channels channels [] .returned
  | raise {frames channels} : Runs frames .raise channels channels [] .raised
  /-- A call whose level reaches that of its channel has a line at each outlet. -/
  | line {frames name call channel message} {channels : Channels} :
      channels (.of name) = some channel → channel.least.number ≤ call.level.number →
      call.Says frames message →
      Runs frames (.note name call) channels channels
        (List.replicate channel.outlets (lineText call.level (ChannelName.of name).text message))
        .returned
  /-- Any other call has none. -/
  | silent {frames name call channels} :
      ¬ call.Reaches channels (.of name) →
      (call.isEager = true → ∃ message, call.Says frames message) →
      Runs frames (.note name call) channels channels [] .returned
  /-- A message that is needed cannot be written. -/
  | unwritable {frames name call channels} :
      call.isEager = true ∨ call.Reaches channels (.of name) →
      (¬ ∃ message, call.Says frames message) →
      Runs frames (.note name call) channels channels [] .raised
  | openChannel {frames name word least channels} : Level.ofName? word = some least →
      Runs frames (.openChannel name word) channels
        (Function.update channels (.of name) (some ⟨least, 1⟩)) [] .returned
  | openNoLevel {frames name word channels} : Level.ofName? word = none →
      Runs frames (.openChannel name word) channels channels [] .raised
  | setLeast {frames name word least} {channels : Channels} : Level.ofName? word = some least →
      Runs frames (.setLeast name word) channels
        (Function.update channels (.of name)
          ((channels (.of name)).map fun channel => { channel with least })) [] .returned
  | setNoLevel {frames name word channels} : Level.ofName? word = none →
      Runs frames (.setLeast name word) channels channels [] .raised
  /-- The frame of a block is there for its body, and for nothing else. -/
  | block {frames frame body channels after lines ending} :
      Runs (frames ++ [frame]) body channels after lines ending →
      Runs frames (.block frame body) channels after lines ending
  | attempt {frames body handler channels after lines} :
      Runs frames body channels after lines .returned →
      Runs frames (.attempt body handler) channels after lines .returned
  | handled {frames body handler channels between after lines more ending} :
      Runs frames body channels between lines .raised →
      Runs frames handler between after more ending →
      Runs frames (.attempt body handler) channels after (lines ++ more) ending
  | seq {frames first second channels between after lines more ending} :
      Runs frames first channels between lines .returned →
      Runs frames second between after more ending →
      Runs frames (.seq first second) channels after (lines ++ more) ending
  | cut {frames first second channels after lines} :
      Runs frames first channels after lines .raised →
      Runs frames (.seq first second) channels after lines .raised

variable {journal : Journal} {program : Program} {name : ChannelName} {call : Call} {least : Level}
  {frames : List Frame} {channels after : Channels} {lines : List (List Char)} {ending : Ending}

theorem channel?_withChannel {channel : Channel} : (journal.withChannel name channel).channel? =
    Function.update journal.channel? name (some channel) := by
  funext other
  by_cases hother : other = name
  · rw [hother, Function.update_self]
    exact channel?_withChannel_self journal
  · rw [Function.update_of_ne hother]
    exact channel?_withChannel_of_ne journal hother

theorem channel?_openChannel : (journal.openChannel name least).channel? =
    Function.update journal.channel? name (some ⟨least, 1⟩) :=
  channel?_withChannel

theorem channel?_setLeast : (journal.setLeast name least).channel? =
    Function.update journal.channel? name
      ((journal.channel? name).map fun channel => { channel with least }) := by
  unfold Journal.setLeast
  cases hchannel : journal.channel? name with
  | none => exact (Function.update_eq_self_iff.2 hchannel.symm).symm
  | some channel => exact channel?_withChannel

/-- **A program does what is said of it.** -/
theorem runs_run (program : Program) (journal : Journal) :
    Runs journal.frames program journal.channel? (program.run journal).journal.channel?
      (program.run journal).lines (program.run journal).ending := by
  induction program generalizing journal with
  | skip => exact .skip
  | raise => exact .raise
  | note name call =>
    rw [Program.run_note]
    cases hlines : call.lines? journal (.of name) with
    | none =>
      obtain ⟨hneeded, hnone⟩ := Call.lines?_eq_none_iff.1 hlines
      exact .unwritable hneeded hnone
    | some lines =>
      rcases Call.lines?_eq_some_iff.1 hlines with
        ⟨channel, message, hchannel, hleast, hsays, rfl⟩ | ⟨hreaches, hsays, rfl⟩
      · exact .line hchannel hleast hsays
      · exact .silent hreaches hsays
  | openChannel name word =>
    rw [Program.run_openChannel]
    cases hleast : Level.ofName? word with
    | none => exact .openNoLevel hleast
    | some least => exact channel?_openChannel ▸ .openChannel hleast
  | setLeast name word =>
    rw [Program.run_setLeast]
    cases hleast : Level.ofName? word with
    | none => exact .setNoLevel hleast
    | some least => exact channel?_setLeast ▸ .setLeast hleast
  | block frame body ih => exact .block (ih (journal.enter frame))
  | attempt body handler hbody hhandler =>
    have htried := hbody journal
    rw [Program.run_attempt]
    cases hending : (body.run journal).ending with
    | returned =>
      rw [Result.andThen_of_ne (hending ▸ nofun), hending]
      exact .attempt (hending ▸ htried)
    | raised =>
      have hhandled := hhandler (body.run journal).journal
      rw [Program.frames_run] at hhandled
      rw [Result.andThen_of_eq hending]
      exact .handled (hending ▸ htried) hhandled
  | seq first second hfirst hsecond =>
    have hdone := hfirst journal
    rw [Program.run_seq]
    cases hending : (first.run journal).ending with
    | returned =>
      have hnext := hsecond (first.run journal).journal
      rw [Program.frames_run] at hnext
      rw [Result.andThen_of_eq hending]
      exact .seq (hending ▸ hdone) hnext
    | raised =>
      rw [Result.andThen_of_ne (hending ▸ nofun), hending]
      exact .cut (hending ▸ hdone)

/-- **A program does nothing else.** -/
theorem Runs.eq_run (h : Runs frames program channels after lines ending)
    (hframes : journal.frames = frames) (hchannels : journal.channel? = channels) :
    (program.run journal).journal.channel? = after ∧ (program.run journal).lines = lines ∧
      (program.run journal).ending = ending := by
  induction h generalizing journal with
  | skip | raise => exact ⟨hchannels, rfl, rfl⟩
  | line hchannel hleast hsays =>
    subst hframes hchannels
    rw [Program.run_note,
      Call.lines?_eq_some_iff.2 (.inl ⟨_, _, hchannel, hleast, hsays, rfl⟩)]
    exact ⟨rfl, rfl, rfl⟩
  | silent hreaches hsays =>
    subst hframes hchannels
    rw [Program.run_note, Call.lines?_eq_some_iff.2 (.inr ⟨hreaches, hsays, rfl⟩)]
    exact ⟨rfl, rfl, rfl⟩
  | unwritable hneeded hnone =>
    subst hframes hchannels
    rw [Program.run_note, Call.lines?_eq_none_iff.2 ⟨hneeded, hnone⟩]
    exact ⟨rfl, rfl, rfl⟩
  | openChannel hleast =>
    subst hchannels
    rw [Program.run_openChannel, hleast]
    exact ⟨channel?_openChannel, rfl, rfl⟩
  | openNoLevel hleast =>
    rw [Program.run_openChannel, hleast]
    exact ⟨hchannels, rfl, rfl⟩
  | setLeast hleast =>
    subst hchannels
    rw [Program.run_setLeast, hleast]
    exact ⟨channel?_setLeast, rfl, rfl⟩
  | setNoLevel hleast =>
    rw [Program.run_setLeast, hleast]
    exact ⟨hchannels, rfl, rfl⟩
  | block _ ih =>
    subst hframes
    exact @ih (journal.enter _) rfl hchannels
  | attempt _ ih =>
    obtain ⟨hafter, hlines, hending⟩ := ih hframes hchannels
    rw [Program.run_attempt, Result.andThen_of_ne (hending ▸ nofun)]
    exact ⟨hafter, hlines, hending⟩
  | handled _ _ hbody hhandler =>
    obtain ⟨hbetween, hlines, hending⟩ := hbody hframes hchannels
    obtain ⟨hafter, hmore, hlast⟩ := hhandler ((Program.frames_run _ _).trans hframes) hbetween
    rw [Program.run_attempt, Result.andThen_of_eq hending]
    exact ⟨hafter, congrArg₂ _ hlines hmore, hlast⟩
  | seq _ _ hfirst hsecond =>
    obtain ⟨hbetween, hlines, hending⟩ := hfirst hframes hchannels
    obtain ⟨hafter, hmore, hlast⟩ := hsecond ((Program.frames_run _ _).trans hframes) hbetween
    rw [Program.run_seq, Result.andThen_of_eq hending]
    exact ⟨hafter, congrArg₂ _ hlines hmore, hlast⟩
  | cut _ ih =>
    obtain ⟨hafter, hlines, hending⟩ := ih hframes hchannels
    rw [Program.run_seq, Result.andThen_of_ne (hending ▸ nofun)]
    exact ⟨hafter, hlines, hending⟩

/-! ### Scope -/

/-- **The frames at a call are those of the blocks around it.** After any program, and so after each
of its blocks, the stack of frames is as it was, whether the program has returned or failed. The
lines that come out, the channels afterwards and the way the program ends are those that are told
from its text: a call whose level reaches that of its channel has a line at each outlet, which is
its text and then each field of the blocks around it and of the call itself, once, where it is given
first and with the value that it is given last. Other calls have none, and a call fails when it
needs a message in which a value cannot be written. -/
theorem scoped_run (program : Program) (journal : Journal) :
    let done := program.run journal
    done.journal.frames = journal.frames ∧ ∀ channels lines ending,
      Runs journal.frames program journal.channel? channels lines ending ↔
        done.journal.channel? = channels ∧ done.lines = lines ∧ done.ending = ending := by
  intro done
  refine ⟨program.frames_run journal, fun channels lines ending => ⟨?_, ?_⟩⟩
  · intro h
    exact h.eq_run rfl rfl
  · rintro ⟨rfl, rfl, rfl⟩
    exact runs_run program journal

/-- An inner block that fails gives `user` another value at its old place, and is over at the second
call. -/
example :
    let info (text : String) (fields : Frame) : Program :=
      .note "x".toList (.note .info ⟨text.toList, fields⟩)
    let field (name value : String) : List Char × Value := (name.toList, .text value.toList)
    let inner := Program.block [field "job" "1", field "user" "b"]
      (.seq (info "in" [field "n" "2"]) .raise)
    let outer := Program.block [field "user" "a"] (.seq (.attempt inner .skip) (info "out" []))
    (outer.run (Journal.empty.openChannel (.of "x".toList) .info)).lines =
      ["INFO x in | user=b job=1 n=2".toList, "INFO x out | user=a".toList] := by
  decide +kernel

/-- A number of 4301 digits leaves an event without a line, although its level reaches that of the
channel. And the line about a failure names its kind and its message, although no block around it
and no field of the call does. -/
theorem not_line_of_call :
    (¬ ∀ (journal : Journal) (name : List Char) (channel : Channel) (call : Call),
      journal.channel? (.of name) = some channel → channel.outlets ≠ 0 →
        (((Program.note name call).run journal).lines ≠ [] ↔
          channel.least.number ≤ call.level.number)) ∧
    ¬ ∀ (journal : Journal) (name : List Char) (call : Call),
      ∀ line ∈ ((Program.note name call).run journal).lines, ∃ message,
        call.given.Says journal.frames message ∧
          line = lineText call.level (ChannelName.of name).text message := by
  constructor
  · intro hall
    let number : Int := .ofNat (Nat.pow 10 maxNumeralLength)
    have hnumber : signedNumeral? number = none := numeral?_eq_none_iff.2 (Nat.le_refl _)
    let journal : Journal := ⟨[(.of "x".toList, ⟨.info, 1⟩)], []⟩
    let call : Call := .note .info ⟨"m".toList, [("n".toList, .int number)]⟩
    have hchannel : journal.channel? (.of "x".toList) = some ⟨.info, 1⟩ := rfl
    have hlines : call.lines? journal (.of "x".toList) = none := by
      rw [Call.lines?_of_reaches hchannel (Nat.le_refl _)]
      simp [call, journal, Call.event?, message?, messageText?, context, contextOf, Frame.update,
        Frame.put, Value.plain?_int, hnumber]
    have hcall := hall journal "x".toList ⟨.info, 1⟩ call hchannel Nat.one_ne_zero
    rw [Program.run_note, hlines] at hcall
    exact hcall.2 (Nat.le_refl _) rfl
  · intro hall
    have hline := hall ⟨[(.of "x".toList, ⟨.info, 1⟩)], []⟩ "x".toList
      (.noteFailure ⟨"e".toList, []⟩ (.value [.text "bad".toList]))
      "ERROR x e | exception_type=ValueError exception_message=bad".toList (by decide +kernel)
    obtain ⟨message, hsays, hline⟩ := hline
    cases Event.says_iff.1 hsays
    revert hline
    decide

end FileSieve.Journal
