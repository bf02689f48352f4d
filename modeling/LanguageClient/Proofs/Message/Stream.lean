import LanguageClient.Proofs.Message.Frame
namespace LanguageClient

/-!
# Framing loses nothing

Frames that stand behind one another are taken off a stream one by one, whatever further header
lines they have and whatever their bodies look like. A stream that breaks off gives the messages
that are complete and no other: inside a frame it fails, wherever the break falls.
-/

namespace Frame

/-! ## Packets -/

/-- A header line of another name. -/
structure OtherLine where
  text : Text
  isLine : IsLine text
  other : ∀ name value, Text.cut? ':' text = some (name, value) →
    Text.lowerAscii (Text.trim name) ≠ "content-length".toList

/-- A frame: a body that is not empty and not too long, the line that announces it, whose name may
be spelled in any letter case, and other header lines on both sides of that one. -/
structure Packet where
  before : List OtherLine
  name : Text
  after : List OtherLine
  content : Text
  named : Text.lowerAscii name = "content-length".toList
  content_ne_nil : content ≠ []
  fits : content.byteLength ≤ maxLength

namespace Packet

def lines (p : Packet) : List Text :=
  p.before.map OtherLine.text ++ lengthLine p.name p.content.byteLength ::
    p.after.map OtherLine.text

def text (p : Packet) : Text := heading p.lines ++ p.content

def bytes (p : Packet) : Bytes := Utf8.encode p.text

/-- The frame that a message is sent in. -/
def plain (content : Text) (hne : content ≠ []) (hfit : content.byteLength ≤ maxLength) : Packet :=
  ⟨[], "Content-Length".toList, [], content, by decide, hne, hfit⟩

theorem text_plain {content : Text} (hne : content ≠ []) (hfit : content.byteLength ≤ maxLength) :
    (plain content hne hfit).text = encode content := by
  have hname : "Content-Length: ".toList = "Content-Length".toList ++ [':', ' '] := by decide
  change heading [lengthLine "Content-Length".toList content.byteLength] ++ content = _
  unfold encode
  rw [hname]
  -- The spelling of the name does not matter.
  generalize "Content-Length".toList = name
  simp [heading, lengthLine, crlf]

theorem announces_others (others : List OtherLine) {lines : List Text} {length : Option Nat}
    {n : Nat} (h : Announces n length lines) :
    Announces n length (others.map OtherLine.text ++ lines) := by
  induction others with
  | nil => exact h
  | cons l others ih => exact .cons l.isLine (headerLength_other l.other l.isLine.solid) ih

theorem announces (p : Packet) : Announces p.content.byteLength none p.lines := by
  have hsize : p.content.byteLength < UInt64.size := Nat.lt_of_le_of_lt p.fits (by decide)
  have hafter := announces_others p.after (.nil (n := p.content.byteLength))
  rw [List.append_nil] at hafter
  exact announces_others p.before
    (.cons (isLine_lengthLine p.named _) (headerLength_lengthLine p.named hsize) hafter)

theorem lines_ne_nil (p : Packet) : p.lines ≠ [] :=
  List.append_ne_nil_of_right_ne_nil _ (List.cons_ne_nil _ _)

theorem bytes_eq (p : Packet) :
    p.bytes = Utf8.encode (heading p.lines) ++ Utf8.encode p.content :=
  Utf8.encode_append _ _

/-- A frame is taken off whatever follows it. -/
theorem next_bytes (p : Packet) (rest : Bytes) (ended : Bool) :
    next (p.bytes ++ rest) ended = .frame p.content rest := by
  have hlines := length_lines_le p.lines
  rw [next, bytes_eq, List.append_assoc]
  refine p.announces.frame p.fits ?_ (.inr p.lines_ne_nil)
  rw [List.length_append]
  omega

/-- A frame that breaks off is none. -/
theorem next_take (p : Packet) {k : Nat} (hpos : 0 < k) (hk : k < p.bytes.length) (ended : Bool) :
    Broken ended (next (p.bytes.take k) ended) := by
  rw [next, List.length_take, Nat.min_eq_left (Nat.le_of_lt hk)]
  rw [bytes_eq] at hk ⊢
  exact p.announces.broken p.content_ne_nil p.fits (Nat.lt_succ_self _) hk
    (.inr ⟨p.lines_ne_nil, hpos⟩)

end Packet

/-! ## Streams -/

/-- Frame after frame is taken off some bytes: the messages, and what comes after them. -/
inductive Reads (ended : Bool) : Bytes → List Text → Next → Prop where
  | stop {bytes : Bytes} (h : ∀ content rest, next bytes ended ≠ .frame content rest) :
      Reads ended bytes [] (next bytes ended)
  | frame {bytes rest : Bytes} {content : Text} {contents : List Text} {outcome : Next}
      (h : next bytes ended = .frame content rest) (hrest : Reads ended rest contents outcome) :
      Reads ended bytes (content :: contents) outcome

theorem Reads.unique {ended : Bool} {bytes : Bytes} {contents contents' : List Text}
    {outcome outcome' : Next} (h : Reads ended bytes contents outcome)
    (h' : Reads ended bytes contents' outcome') : contents = contents' ∧ outcome = outcome' := by
  induction h generalizing contents' with
  | stop h =>
    cases h' with
    | stop => exact ⟨rfl, rfl⟩
    | frame hnext => exact absurd hnext (h _ _)
  | frame h hrest ih =>
    cases h' with
    | stop hstop => exact absurd h (hstop _ _)
    | frame hnext hrest' =>
      rw [h, Next.frame.injEq] at hnext
      obtain ⟨rfl, rfl⟩ := hnext
      obtain ⟨rfl, rfl⟩ := ih hrest'
      exact ⟨rfl, rfl⟩

theorem Broken.ne_frame {ended : Bool} {next : Next} (h : Broken ended next) (content : Text)
    (rest : Bytes) : next ≠ .frame content rest := by
  rintro rfl
  cases ended with
  | true => obtain ⟨e, he⟩ := h; cases he
  | false => cases h

def stream (packets : List Packet) : Bytes := packets.flatMap Packet.bytes

/-- The packets that are complete within so many bytes. -/
def arrived : List Packet → Nat → List Packet
  | [], _ => []
  | p :: ps, n => if p.bytes.length ≤ n then p :: arrived ps (n - p.bytes.length) else []

theorem stream_cons (p : Packet) (ps : List Packet) : stream (p :: ps) = p.bytes ++ stream ps :=
  List.flatMap_cons

/-- They are the first ones, as many as there is room for. -/
theorem prefix_arrived_iff {first packets : List Packet} {n : Nat} :
    first <+: arrived packets n ↔ first <+: packets ∧ (stream first).length ≤ n := by
  induction packets generalizing first n with
  | nil =>
    rw [arrived, List.prefix_nil, iff_self_and]
    rintro rfl
    exact Nat.zero_le n
  | cons p ps ih =>
    cases first with
    | nil => exact ⟨fun _ => ⟨List.nil_prefix, Nat.zero_le n⟩, fun _ => List.nil_prefix⟩
    | cons q qs =>
      rw [arrived, stream_cons, List.length_append, List.cons_prefix_cons, and_assoc]
      by_cases hp : p.bytes.length ≤ n
      · rw [if_pos hp, List.cons_prefix_cons, ih]
        refine and_congr_right fun hq => and_congr_right fun _ => ?_
        rw [hq]
        omega
      · rw [if_neg hp, List.prefix_nil]
        refine iff_of_false (List.cons_ne_nil q qs) fun h => ?_
        rw [h.1] at h
        omega

theorem arrived_of_le {packets : List Packet} {n : Nat} (h : (stream packets).length ≤ n) :
    arrived packets n = packets :=
  ((prefix_arrived_iff.1 List.prefix_rfl).1).eq_of_length_le
    (prefix_arrived_iff.2 ⟨List.prefix_rfl, h⟩).length_le

theorem reads_nil (ended : Bool) : Reads ended [] [] (next [] ended) := by
  refine .stop fun content rest h => ?_
  cases ended <;> cases h

/-- Reading comes as far as the frames are whole; then the bytes ended, or broke off. -/
theorem reads_take (ended : Bool) (packets : List Packet) (n : Nat) :
    ∃ outcome,
      Reads ended ((stream packets).take n) ((arrived packets n).map Packet.content) outcome ∧
        ((stream packets).take n = stream (arrived packets n) → outcome = next [] ended) ∧
        ((stream packets).take n ≠ stream (arrived packets n) → Broken ended outcome) := by
  induction packets generalizing n with
  | nil =>
    have hnil : (stream []).take n = [] := List.take_nil
    rw [hnil]
    exact ⟨_, reads_nil ended, fun _ => rfl, fun h => absurd rfl h⟩
  | cons p ps ih =>
    rw [stream_cons, arrived]
    by_cases hp : p.bytes.length ≤ n
    · obtain ⟨i, rfl⟩ := Nat.exists_eq_add_of_le hp
      obtain ⟨outcome, hreads, houtcome⟩ := ih i
      have hcut : p.bytes ++ (stream ps).take i = stream (p :: arrived ps i) ↔
          (stream ps).take i = stream (arrived ps i) := List.append_right_inj p.bytes
      rw [if_pos hp, Nat.add_sub_cancel_left, List.take_length_add_append, ne_eq, hcut]
      exact ⟨outcome, .frame (p.next_bytes _ ended) hreads, houtcome⟩
    · rw [if_neg hp, List.take_append_of_le_length (by omega)]
      rcases Nat.eq_zero_or_pos n with rfl | hpos
      · exact ⟨_, reads_nil ended, fun _ => rfl, fun h => absurd rfl h⟩
      · have hbroken := p.next_take hpos (Nat.lt_of_not_le hp) ended
        have hne : p.bytes.take n ≠ stream [] := by
          intro h
          have hlen := congrArg List.length h
          rw [List.length_take, stream, List.flatMap_nil, List.length_nil] at hlen
          omega
        exact ⟨_, .stop hbroken.ne_frame, fun h => absurd h hne, fun _ => hbroken⟩

/-- A stream of frames gives their bodies and ends. Cut off anywhere, it gives the bodies of the
frames before the cut; then it ends if the cut is between two frames and fails if it is in one. -/
theorem reads_stream (packets : List Packet) :
    Reads true (stream packets) (packets.map Packet.content) .ended ∧
      ∀ n, ∃ e, Reads true ((stream packets).take n) ((arrived packets n).map Packet.content)
        (if (stream packets).take n = stream (arrived packets n) then .ended else .failed e) := by
  have hcut (n : Nat) : ∃ e,
      Reads true ((stream packets).take n) ((arrived packets n).map Packet.content)
        (if (stream packets).take n = stream (arrived packets n) then .ended else .failed e) := by
    obtain ⟨outcome, hreads, hended, hbroken⟩ := reads_take true packets n
    by_cases h : (stream packets).take n = stream (arrived packets n)
    · obtain rfl := hended h
      exact ⟨.protocol "", by rwa [if_pos h]⟩
    · obtain ⟨e, rfl⟩ := hbroken h
      exact ⟨e, by rwa [if_neg h]⟩
  refine ⟨?_, hcut⟩
  obtain ⟨e, hwhole⟩ := hcut (stream packets).length
  rwa [List.take_length, arrived_of_le (Nat.le_refl _), if_pos rfl] at hwhole

/-- While more bytes may come the reader waits for them, however the frames arrive in pieces. -/
theorem reads_open (packets : List Packet) (n : Nat) :
    Reads false ((stream packets).take n) ((arrived packets n).map Packet.content) .incomplete := by
  obtain ⟨outcome, hreads, hended, hbroken⟩ := reads_take false packets n
  by_cases h : (stream packets).take n = stream (arrived packets n)
  · obtain rfl := hended h
    exact hreads
  · obtain rfl : outcome = .incomplete := hbroken h
    exact hreads

end Frame

end LanguageClient
