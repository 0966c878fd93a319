import ExecutionHandoff.Host.FrameRecords
import ExecutionHandoff.Library.Marks
import ExecutionHandoff.WebSocket.WindowHostRecords

/-!
# JPEG images of the Linux host

`JpegFrameParser` takes the images out of the output of an encoder, each from a
start marker to the next end marker.  What it throws ends the host.  The images
go out as records, which `WebSocketWindowHostRecordParser` reads.
-/

namespace ExecutionHandoff.Host

open Library List Option
open Host.HostWire (jpegSoi jpegEoi jpegFrameRecord sizeInBounds)
open WebSocket.WebSocketWindowHostRecordParser (maxHostRecordBytes events_record)
open Framing (drain_wait drain_fault drain_record)
open WebSocket.WindowHostRecord (frame bytes payload)

/-! ## Images in a stream -/

/-- The first image of a stream, and what follows it. -/
def nextImage (stream : List UInt8) : Option (List UInt8 × List UInt8) :=
  (cutAt jpegSoi stream).bind fun started =>
    (cutAt jpegEoi (started.2.drop 2)).map fun ended =>
      (started.2.take (ended.1.length + 4), started.2.drop (ended.1.length + 4))

variable {stream rest image : List UInt8}

theorem nextImage_eq {garbage tail content : List UInt8}
    (start : cutAt jpegSoi stream = some (garbage, jpegSoi ++ tail))
    (stop : cutAt jpegEoi tail = some (content, jpegEoi ++ rest)) :
    nextImage stream = some (jpegSoi ++ content ++ jpegEoi, rest) := by
  obtain ⟨rfl, _⟩ := cutAt_spec stop
  have split : jpegSoi ++ (content ++ (jpegEoi ++ rest)) =
      (jpegSoi ++ content ++ jpegEoi) ++ rest := by simp
  have size : content.length + 4 = (jpegSoi ++ content ++ jpegEoi).length := by
    simp [jpegSoi, jpegEoi]
  have behind : (jpegSoi ++ (content ++ (jpegEoi ++ rest))).drop 2 =
      content ++ (jpegEoi ++ rest) := rfl
  unfold nextImage
  rw [start, bind_some, behind, stop, map_some, split, size, take_left,
    drop_left]

theorem nextImage_spec (next : nextImage stream = some (image, rest)) :
    ∃ garbage content,
      cutAt jpegSoi stream = some (garbage, jpegSoi ++ (content ++ (jpegEoi ++ rest))) ∧
      cutAt jpegEoi (content ++ (jpegEoi ++ rest)) = some (content, jpegEoi ++ rest) ∧
      image = jpegSoi ++ content ++ jpegEoi := by
  obtain ⟨⟨garbage, started⟩, start, further⟩ := bind_eq_some_iff.mp next
  obtain ⟨⟨content, ended⟩, stop, _⟩ := map_eq_some_iff.mp further
  obtain ⟨_, ⟨more, rfl⟩⟩ := cutAt_spec start
  obtain ⟨whole, ⟨rest', rfl⟩⟩ := cutAt_spec stop
  change more = content ++ (jpegEoi ++ rest') at whole
  subst whole
  cases (nextImage_eq start stop).symm.trans next
  exact ⟨garbage, content, start, stop, rfl⟩

theorem nextImage_shorter {stream image rest : List UInt8}
    (next : nextImage stream = some (image, rest)) : rest.length < stream.length := by
  obtain ⟨garbage, content, start, _, _⟩ := nextImage_spec next
  rw [(cutAt_spec start).1]
  simp only [length_append, jpegSoi, length_cons]
  omega

/-- All images of a stream, whatever their size. -/
def images (stream : List UInt8) : List (List UInt8) :=
  match _next : nextImage stream with
  | none => []
  | some (image, rest) => image :: images rest
  termination_by stream.length
  decreasing_by exact nextImage_shorter (by assumption)

theorem images_none (none' : nextImage stream = none) : images stream = [] := by
  rw [images]
  split <;> simp_all

theorem images_some
    (next : nextImage stream = some (image, rest)) : images stream = image :: images rest := by
  rw [images]
  split <;> simp_all

/-- An image with its first end marker at its end. -/
def IsImage (image : List UInt8) : Prop :=
  jpegSoi <+: image ∧ ∃ content, cutAt jpegEoi image = some (content, jpegEoi)

theorem nextImage_append (whole : IsImage image) (rest : List UInt8) :
    nextImage (image ++ rest) = some (image, rest) := by
  obtain ⟨⟨more, rfl⟩, content, ends⟩ := whole
  have start : cutAt jpegSoi (jpegSoi ++ more ++ rest) = some ([], jpegSoi ++ more ++ rest) :=
    cutAt_prefix (by decide) ((prefix_append jpegSoi more).trans (prefix_append _ rest))
  -- The end marker does not begin within the start marker.
  have stop : ∃ content, cutAt jpegEoi more = some (content, jpegEoi) := by
    change cutAt jpegEoi (0xff :: 0xd8 :: more) = _ at ends
    rw [cutAt, if_neg (by simp [jpegEoi]), cutAt, if_neg (by simp [jpegEoi])] at ends
    obtain ⟨first, ends', same⟩ := map_eq_some_iff.mp ends
    obtain ⟨⟨second, back⟩, ends'', rfl⟩ := map_eq_some_iff.mp ends'
    obtain ⟨-, rfl⟩ := Prod.mk.inj same
    exact ⟨_, ends''⟩
  obtain ⟨content, stop⟩ := stop
  obtain ⟨rfl, _⟩ := cutAt_spec stop
  rw [append_assoc] at start
  have next := nextImage_eq start (cutAt_append stop rest)
  rwa [append_assoc jpegSoi content] at next

theorem nextImage_more (next : nextImage stream = some (image, rest)) (more : List UInt8) :
    nextImage (stream ++ more) = some (image, rest ++ more) := by
  obtain ⟨garbage, content, start, stop, rfl⟩ := nextImage_spec next
  have start' := cutAt_append start more
  have stop' := cutAt_append stop more
  rw [append_assoc] at start'
  rw [append_assoc jpegEoi rest more] at stop'
  exact nextImage_eq start' stop'

/-- Where no image is complete, a started one has no end marker. -/
theorem unended {garbage tail : List UInt8} (none' : nextImage stream = none)
    (start : cutAt jpegSoi stream = some (garbage, jpegSoi ++ tail)) :
    cutAt jpegEoi tail = none := by
  cases stop : cutAt jpegEoi tail with
  | none => rfl
  | some ended =>
      obtain ⟨content, back⟩ := ended
      obtain ⟨_, ⟨rest, rfl⟩⟩ := cutAt_spec stop
      cases none'.symm.trans (nextImage_eq start stop)

/-! ## The parser -/

/-- What the loop of the parser emits, leaves pending and throws. -/
structure JpegDrained where
  emitted : List (List UInt8)
  pending : List UInt8
  thrown : Option String
  deriving DecidableEq

namespace JpegFrameParser

def bufferMessage : String := "Linux WebSocket host JPEG buffer exceeded bounds"
def frameMessage : String := "Linux WebSocket host JPEG frame exceeded bounds"

def drain (pending : List UInt8) : JpegDrained :=
  match _start : cutAt jpegSoi pending with
  | none =>
      ⟨[], if 1 < pending.length then pending.drop (pending.length - 1) else pending, none⟩
  | some (_, started) =>
      match _stop : cutAt jpegEoi (started.drop 2) with
      | none =>
          ⟨[], started, if maxHostFrameBytes < started.length then some bufferMessage else none⟩
      | some (content, _) =>
          let jpeg := started.take (content.length + 4)
          let rest := started.drop (content.length + 4)
          if maxHostFrameBytes < jpeg.length then ⟨[], rest, some frameMessage⟩
          else { drain rest with emitted := jpeg :: (drain rest).emitted }
  termination_by pending.length
  decreasing_by
    all_goals
      refine @nextImage_shorter _ (started.take (content.length + 4)) _ ?_
      simp [nextImage, *]

/-- `push` -/
def push (pending chunk : List UInt8) : JpegDrained :=
  if chunk = [] then ⟨[], pending, none⟩ else drain (pending ++ chunk)

/-- What is emitted for the chunks and the end, and what is thrown: the first throw ends all. -/
def emit (pending : List UInt8) : List (List UInt8) → List (List UInt8) × Option String
  | [] => ((drain pending).emitted, (drain pending).thrown)
  | chunk :: chunks =>
      let pushed := push pending chunk
      match pushed.thrown with
      | some message => (pushed.emitted, some message)
      | none =>
          (pushed.emitted ++ (emit pushed.pending chunks).1, (emit pushed.pending chunks).2)

/-! ## The stream as a whole -/

variable {stream rest image pending : List UInt8}

theorem drain_waits (none' : cutAt jpegSoi pending = none) :
    drain pending = ⟨[], pending.drop (pending.length - 1), none⟩ := by
  have kept : (if 1 < pending.length then pending.drop (pending.length - 1) else pending) =
      pending.drop (pending.length - 1) := by
    split
    · rfl
    · rename_i few
      rw [Nat.sub_eq_zero_of_le (Nat.not_lt.mp few), drop_zero]
  rw [drain]
  split
  · rw [kept]
  · rename_i found
    cases none'.symm.trans found

theorem drain_started {pending garbage started : List UInt8}
    (start : cutAt jpegSoi pending = some (garbage, started))
    (none' : cutAt jpegEoi (started.drop 2) = none) :
    drain pending =
      ⟨[], started, if maxHostFrameBytes < started.length then some bufferMessage else none⟩ := by
  rw [drain]
  split
  · rename_i found
    cases start.symm.trans found
  · rename_i found
    cases start.symm.trans found
    split
    · rfl
    · rename_i found'
      cases none'.symm.trans found'

theorem drain_image (next : nextImage pending = some (image, rest)) :
    drain pending =
      if maxHostFrameBytes < image.length then ⟨[], rest, some frameMessage⟩
      else { drain rest with emitted := image :: (drain rest).emitted } := by
  obtain ⟨garbage, content, start, stop, rfl⟩ := nextImage_spec next
  have split : jpegSoi ++ (content ++ (jpegEoi ++ rest)) =
      (jpegSoi ++ content ++ jpegEoi) ++ rest := by simp
  have size : content.length + 4 = (jpegSoi ++ content ++ jpegEoi).length := by
    simp [jpegSoi, jpegEoi]
  rw [drain]
  split
  · rename_i found
    cases start.symm.trans found
  · rename_i found
    cases start.symm.trans found
    split
    · rename_i found'
      cases stop.symm.trans found'
    · rename_i found'
      cases stop.symm.trans found'
      simp only [split, size, take_left, drop_left]

/-- Where no image is complete, whether too much of one is pending. -/
def overfull (stream : List UInt8) : Bool :=
  (cutAt jpegSoi stream).any fun started => decide (maxHostFrameBytes < started.2.length)

/-- The front of a stream of images. -/
def front (stream : List UInt8) : Front UInt8 (List UInt8) :=
  match nextImage stream with
  | none => if overfull stream then .fault else .wait
  | some (image, rest) =>
      if maxHostFrameBytes < image.length then .fault else .record image rest

theorem front_image (next : nextImage stream = some (image, rest)) :
    front stream = if maxHostFrameBytes < image.length then .fault else .record image rest := by
  unfold front
  rw [next]

theorem front_unfinished (none' : nextImage stream = none) :
    front stream = if overfull stream then .fault else .wait := by
  unfold front
  rw [none']

theorem front_eq_record (found : front stream = .record image rest) :
    nextImage stream = some (image, rest) ∧ image.length ≤ maxHostFrameBytes := by
  cases next : nextImage stream with
  | none =>
      rw [front_unfinished next] at found
      split at found <;> cases found
  | some image' =>
      rw [front_image next] at found
      split at found
      · cases found
      · rename_i small
        cases found
        exact ⟨rfl, Nat.not_lt.mp small⟩

/-- An image that has been too large so far stays so. -/
theorem fault_more (none' : nextImage stream = none)
    (excess : overfull stream = true) (more : List UInt8) : front (stream ++ more) = .fault := by
  obtain ⟨⟨garbage, started⟩, start, large⟩ := (any_eq_true _ _).mp excess
  rw [decide_eq_true_eq] at large
  have start' := cutAt_append start more
  cases next : nextImage (stream ++ more) with
  | none =>
      have excess' : overfull (stream ++ more) = true := by
        refine (any_eq_true _ _).mpr ⟨_, start', decide_eq_true ?_⟩
        rw [length_append]
        exact Nat.lt_add_right _ large
      rw [front_unfinished next, if_pos excess']
  | some found =>
      obtain ⟨garbage', content, start'', stop, same⟩ := nextImage_spec next
      obtain ⟨_, ⟨tail, rfl⟩⟩ := cutAt_spec start
      have tails : jpegSoi ++ (tail ++ more) =
          jpegSoi ++ (content ++ (jpegEoi ++ found.2)) :=
        (append_assoc _ _ _).symm.trans
          (congrArg Prod.snd (Option.some.inj (start'.symm.trans start'')))
      rw [← append_cancel_left tails] at stop
      have beyond := cutAt_beyond (unended none' start) stop
      have large' : maxHostFrameBytes < found.1.length := by
        rw [same]
        simp only [length_append, jpegSoi, jpegEoi, length_cons, length_nil]
          at large beyond ⊢
        omega
      rw [front_image next, if_pos large']

/-- What is decided at the front of a stream of images is decided for good. -/
def frames : Framing UInt8 (List UInt8) where
  front := front
  shorter := fun found => nextImage_shorter (front_eq_record found).1
  record_append := fun more found => by
    obtain ⟨next, small⟩ := front_eq_record found
    rw [front_image (nextImage_more next more), if_neg (Nat.not_lt.mpr small)]
  fault_append := fun {stream} more found => by
    cases next : nextImage stream with
    | none =>
        rw [front_unfinished next] at found
        split at found
        · rename_i excess
          exact fault_more next excess more
        · cases found
    | some image =>
        rw [front_image next] at found
        split at found
        · rename_i large
          rw [front_image (nextImage_more next more), if_pos large]
        · cases found

/-- The same images come, whatever follows. -/
def Alike (pending stream : List UInt8) : Prop :=
  ∀ more, (cutAt jpegSoi (pending ++ more)).map Prod.snd = (cutAt jpegSoi (stream ++ more)).map Prod.snd

theorem Alike.push (alike : Alike pending stream)
    (chunk : List UInt8) : Alike (pending ++ chunk) (stream ++ chunk) := by
  intro more
  rw [append_assoc, append_assoc]
  exact alike (chunk ++ more)

theorem Alike.nextImage (alike : Alike pending stream) :
    nextImage pending = nextImage stream ∧ overfull pending = overfull stream := by
  have same := alike []
  rw [append_nil, append_nil] at same
  unfold Host.nextImage overfull
  cases left : cutAt jpegSoi pending <;> cases right : cutAt jpegSoi stream <;>
    rw [left, right] at same <;> simp_all

/-- The loop does what the framing says: the parser drops what stands before an image. -/
theorem drain_spec {pending stream : List UInt8} (alike : Alike pending stream) :
    (drain pending).emitted = (frames.drain stream).records ∧
      (drain pending).thrown.isSome = (frames.drain stream).faulty ∧
      ((drain pending).thrown = none → Alike (drain pending).pending (frames.drain stream).rest) := by
  induction size : stream.length using Nat.strongRecOn generalizing pending stream with
  | ind size ih =>
      subst size
      obtain ⟨same, same'⟩ := alike.nextImage
      cases next : nextImage stream with
      | none =>
          have front := front_unfinished next
          rw [← same'] at front
          cases start : cutAt jpegSoi pending with
          | none =>
              have calm : overfull pending = false := by
                unfold overfull
                rw [start]
                rfl
              rw [calm, if_neg Bool.false_ne_true] at front
              rw [drain_waits start, drain_wait front]
              exact ⟨rfl, rfl, fun _ more => (cutAt_keep start more).trans (alike more)⟩
          | some found =>
              obtain ⟨garbage, started⟩ := found
              obtain ⟨_, ⟨tail, rfl⟩⟩ := cutAt_spec start
              rw [drain_started start (unended (same.trans next) start)]
              by_cases large : maxHostFrameBytes < (jpegSoi ++ tail).length
              · have excess : overfull pending = true :=
                  (any_eq_true _ _).mpr ⟨_, start, decide_eq_true large⟩
                rw [excess, if_pos rfl] at front
                rw [if_pos large, drain_fault front]
                exact ⟨rfl, rfl, fun no => by cases no⟩
              · have calm : overfull pending = false := by
                  unfold overfull
                  rw [start]
                  exact decide_eq_false large
                rw [calm, if_neg Bool.false_ne_true] at front
                rw [if_neg large, drain_wait front]
                refine ⟨rfl, rfl, fun _ more => ?_⟩
                have begun : cutAt jpegSoi (jpegSoi ++ tail ++ more) =
                    some ([], jpegSoi ++ tail ++ more) := cutAt_prefix (by decide)
                      ((prefix_append jpegSoi tail).trans (prefix_append _ more))
                rw [← alike more, begun, cutAt_append start more]
                rfl
      | some found =>
          have front := front_image next
          rw [drain_image (same.trans next)]
          split at front
          · rename_i large
            rw [if_pos large, drain_fault front]
            exact ⟨rfl, rfl, fun no => by cases no⟩
          · rename_i small
            obtain ⟨emitted, thrown, left⟩ := @ih _ (nextImage_shorter next) found.2 found.2
              (fun _ => rfl) rfl
            rw [if_neg small, drain_record front]
            exact ⟨congrArg (found.1 :: ·) emitted, thrown, left⟩

/-- The images and the failure depend on the bytes only, not on the chunks they come in. -/
theorem emit_eq (alike : Alike pending stream)
    (waits : frames.front stream = .wait) (chunks : List (List UInt8)) :
    (emit pending chunks).1 = (frames.drain (stream ++ chunks.flatten)).records ∧
      (emit pending chunks).2.isSome = (frames.drain (stream ++ chunks.flatten)).faulty := by
  induction chunks generalizing pending stream with
  | nil =>
      obtain ⟨emitted, thrown, _⟩ := drain_spec alike
      rw [flatten_nil, append_nil]
      exact ⟨emitted, thrown⟩
  | cons chunk chunks ih =>
      rw [flatten_cons, ← append_assoc]
      by_cases nothing : chunk = []
      · subst nothing
        rw [append_nil]
        exact ih alike waits
      · obtain ⟨emitted, thrown, left⟩ := drain_spec (alike.push chunk)
        have pushed : push pending chunk = drain (pending ++ chunk) := if_neg nothing
        rw [emit, pushed]
        cases failed : (drain (pending ++ chunk)).thrown with
        | some message =>
            have faulty : (frames.drain (stream ++ chunk)).faulty = true := by
              rw [← thrown, failed]
              rfl
            obtain ⟨records, faulty'⟩ := Framing.drain_append_faulty faulty chunks.flatten
            rw [records, faulty']
            exact ⟨emitted, rfl⟩
        | none =>
            have clean : (frames.drain (stream ++ chunk)).faulty = false := by
              rw [← thrown, failed]
              rfl
            have waits' := @Framing.front_rest _ _ frames (stream ++ chunk)
            rw [clean, if_neg Bool.false_ne_true] at waits'
            obtain ⟨emitted', thrown'⟩ := ih (left failed) waits'
            rw [Framing.drain_append (stream ++ chunk)]
            exact ⟨by rw [emitted, emitted'], thrown'⟩

/-- The images are those of the stream up to the first one that is too large. -/
theorem records_eq (stream : List UInt8) :
    (frames.drain stream).records =
      (images stream).takeWhile fun image => decide (image.length ≤ maxHostFrameBytes) := by
  induction size : stream.length using Nat.strongRecOn generalizing stream with
  | ind size ih =>
      subst size
      cases next : nextImage stream with
      | none =>
          have front := front_unfinished next
          rw [images_none next, takeWhile_nil]
          split at front
          · rw [drain_fault front]
          · rw [drain_wait front]
      | some found =>
          have front := front_image next
          rw [images_some next, takeWhile_cons]
          split at front
          · rename_i large
            rw [drain_fault front, if_neg (by simpa using large)]
          · rename_i small
            rw [drain_record front, if_pos (by simpa using small),
              ih _ (nextImage_shorter next) found.2 rfl]

/-! ## What is pending -/

/-- What is pending after the chunks, unless one of them made the parser throw. -/
def feed (pending : List UInt8) : List (List UInt8) → Option (List UInt8)
  | [] => some pending
  | chunk :: chunks =>
      if (push pending chunk).thrown.isSome then none else feed (push pending chunk).pending chunks

theorem drain_bound (calm : (drain pending).thrown = none) :
    (drain pending).pending.length ≤ maxHostFrameBytes := by
  induction size : pending.length using Nat.strongRecOn generalizing pending with
  | ind size ih =>
      subst size
      cases next : nextImage pending with
      | some found =>
          rw [drain_image next] at calm ⊢
          split at calm
          · cases calm
          · rename_i small
            rw [if_neg small]
            exact ih _ (nextImage_shorter next) calm rfl
      | none =>
          cases start : cutAt jpegSoi pending with
          | none =>
              rw [drain_waits start, length_drop]
              have one : 1 ≤ maxHostFrameBytes := by decide
              omega
          | some found =>
              obtain ⟨_, ⟨tail, same⟩⟩ := cutAt_spec start
              have begun : cutAt jpegSoi pending = some (found.1, jpegSoi ++ tail) := by
                rw [start, same]
              rw [drain_started begun (unended next begun)] at calm ⊢
              exact Nat.not_lt.mp fun large => by rw [if_pos large] at calm; cases calm

theorem feed_bound {pending' : List UInt8} {chunks : List (List UInt8)}
    (small : pending.length ≤ maxHostFrameBytes) (fed : feed pending chunks = some pending') :
    pending'.length ≤ maxHostFrameBytes := by
  induction chunks generalizing pending with
  | nil =>
      cases fed
      exact small
  | cons chunk chunks ih =>
      unfold feed at fed
      split at fed
      · cases fed
      · rename_i calm
        refine ih ?_ fed
        unfold push at calm ⊢
        split at calm
        · rename_i nothing
          rw [if_pos nothing]
          exact small
        · rename_i something
          rw [if_neg something]
          exact drain_bound (not_isSome_iff_eq_none.mp calm)

end JpegFrameParser

/-! ## Records of images -/

theorem images_shape (mem : image ∈ images stream) :
    ∃ content, image = jpegSoi ++ content ++ jpegEoi := by
  induction size : stream.length using Nat.strongRecOn generalizing stream with
  | ind size ih =>
      subst size
      cases next : nextImage stream with
      | none =>
          rw [images_none next] at mem
          cases mem
      | some found =>
          rw [images_some next] at mem
          rcases mem_cons.mp mem with rfl | mem
          · obtain ⟨_, content, _, _, same⟩ := nextImage_spec next
            exact ⟨content, same⟩
          · exact ih _ (nextImage_shorter next) mem rfl

/-- An image makes a record exactly if it leaves room for its size. -/
theorem jpegFrameRecord_eq {content : List UInt8} {width height : Nat}
    (sized : sizeInBounds width height = true) :
    jpegFrameRecord (jpegSoi ++ content ++ jpegEoi) width height =
      if maxHostFrameBytes - 4 < (jpegSoi ++ content ++ jpegEoi).length then
        .error "Linux WebSocket host JPEG frame is out of bounds"
      else
        .ok (WebSocket.WindowHostRecord.frame (jpegSoi ++ content ++ jpegEoi) width height).bytes := by
  have long : ¬ (jpegSoi ++ content ++ jpegEoi).length < 4 := by
    simp [jpegSoi, jpegEoi]
  have starts : (jpegSoi ++ content ++ jpegEoi).take 2 = jpegSoi := rfl
  have ends : (jpegSoi ++ content ++ jpegEoi).drop ((jpegSoi ++ content ++ jpegEoi).length - 2) =
      jpegEoi := by
    rw [length_append]
    exact drop_left
  have marked : ¬ ((jpegSoi ++ content ++ jpegEoi).take 2 ≠ jpegSoi ∨
      (jpegSoi ++ content ++ jpegEoi).drop ((jpegSoi ++ content ++ jpegEoi).length - 2) ≠
        jpegEoi) := by
    rintro (other | other)
    · exact other starts
    · exact other ends
  unfold jpegFrameRecord
  by_cases large : maxHostFrameBytes - 4 < (jpegSoi ++ content ++ jpegEoi).length
  · rw [if_pos (.inr large), if_pos large]
  · rw [if_neg (not_or.mpr ⟨long, large⟩), if_neg marked, if_neg (by simp [sized]), if_neg large,
      Int.toNat_natCast, Int.toNat_natCast]
    rfl

theorem frame_valid {content : List UInt8} {width height : Nat}
    (sized : sizeInBounds width height = true)
    (small : (jpegSoi ++ content ++ jpegEoi).length ≤ maxHostFrameBytes - 4) :
    (frame (jpegSoi ++ content ++ jpegEoi) width height).Valid := by
  obtain ⟨⟨wide, width', -⟩, high, height', -⟩ := HostWire.sizeInBounds_iff.mp sized
  have room : maxHostFrameBytes - 4 + 4 = maxHostRecordBytes :=
    rfl
  refine ⟨wide, width', high, height', ⟨?_, rfl, ?_⟩, ?_⟩
  · simp [jpegSoi, jpegEoi]
  · rw [length_append]
    exact drop_left
  · omega

/-- The image goes out as a record of the size of the window, and is read so in any chunks. -/
def Delivered (image : List UInt8) : Prop :=
  ∀ width height : Nat, sizeInBounds width height = true →
    ∃ record, jpegFrameRecord image width height = .ok record ∧
      ∀ chunks : List (List UInt8), chunks.flatten = record →
        WebSocket.WebSocketWindowHostRecordParser.events [] chunks =
          [.callback (.frame image width height)]

theorem delivered_iff {content : List UInt8} :
    Delivered (jpegSoi ++ content ++ jpegEoi) ↔
      (jpegSoi ++ content ++ jpegEoi).length ≤ maxHostFrameBytes - 4 := by
  constructor
  · intro delivered
    obtain ⟨record, made, _⟩ := delivered 1 1 (by decide)
    rw [jpegFrameRecord_eq (by decide)] at made
    split at made
    · cases made
    · rename_i small
      exact Nat.not_lt.mp small
  · intro small width height sized
    refine ⟨_, (jpegFrameRecord_eq sized).trans (if_neg (Nat.not_lt.mpr small)), ?_⟩
    intro chunks same
    refine events_record (frame_valid sized small) same ?_
    have room : maxHostFrameBytes - 4 + 9 =
        maxHostRecordBytes + 5 := rfl
    rw [← room]
    simp only [bytes, payload, writeTagged,
      length_cons, length_append, bigEndian_length] at small ⊢
    omega

namespace JpegFrameParser

/-- A concatenation of images has no fault. -/
theorem clean_flatten {list : List (List UInt8)} (whole : ∀ image ∈ list, IsImage image)
    (small : ∀ image ∈ list, image.length ≤ maxHostFrameBytes) :
    frames.drain list.flatten = ⟨list, [], false⟩ := by
  induction list with
  | nil => exact drain_wait rfl
  | cons image list ih =>
      have front := front_image (nextImage_append (whole image mem_cons_self) list.flatten)
      rw [if_neg (Nat.not_lt.mpr (small image mem_cons_self))] at front
      rw [flatten_cons, drain_record front,
        ih (fun other mem => whole other (mem_cons_of_mem _ mem))
          fun other mem => small other (mem_cons_of_mem _ mem)]

/-- The images and the failure depend on the bytes only; a concatenation of images within the limit
is emitted as it is; and all images emitted are delivered exactly if those of the stream, up to the
first one beyond the limit, leave room for the size. -/
theorem images_delivered (chunks : List (List UInt8)) :
    (∀ chunks' : List (List UInt8), chunks'.flatten = chunks.flatten →
      (emit [] chunks').1 = (emit [] chunks).1 ∧
        (emit [] chunks').2.isSome = (emit [] chunks).2.isSome) ∧
    (∀ list : List (List UInt8), (∀ image ∈ list, IsImage image) →
      (∀ image ∈ list, image.length ≤ maxHostFrameBytes) → chunks.flatten = list.flatten →
        emit [] chunks = (list, none)) ∧
    ((∀ image ∈ (emit [] chunks).1, Delivered image) ↔
      ∀ image ∈ (images chunks.flatten).takeWhile
          (fun image => decide (image.length ≤ maxHostFrameBytes)),
        image.length ≤ maxHostFrameBytes - 4) := by
  have all := fun chunks => emit_eq (fun _ => rfl : Alike [] []) rfl chunks
  simp only [List.nil_append] at all
  refine ⟨fun chunks' same => ?_, fun list whole small same => ?_, ?_⟩
  · rw [(all chunks').1, (all chunks').2, same]
    exact ⟨(all chunks).1.symm, (all chunks).2.symm⟩
  · obtain ⟨emitted, thrown⟩ := all chunks
    rw [same, clean_flatten whole small] at emitted thrown
    exact Prod.ext emitted
      (Option.isNone_iff_eq_none.mp (Option.isSome_eq_false_iff.mp thrown))
  · rw [(all chunks).1, records_eq]
    refine forall_congr' fun image => forall_congr' fun mem => ?_
    obtain ⟨content, rfl⟩ := images_shape (List.takeWhile_subset _ mem)
    exact delivered_iff

/-- An image of as many zeros. -/
def zeroImage (zeros : Nat) : List UInt8 :=
  jpegSoi ++ (List.replicate zeros 0 ++ jpegEoi)

theorem zeroImage_isImage (zeros : Nat) : IsImage (zeroImage zeros) := by
  have others : ∀ symbol ∈ replicate zeros (0 : UInt8), symbol ≠ 0xff :=
    fun symbol mem => (eq_of_mem_replicate mem).symm ▸ (by decide)
  have ends := cutAt_skip others (prefix_refl [0xff, 0xd9])
  refine ⟨prefix_append _ _, 0xff :: 0xd8 :: replicate zeros 0, ?_⟩
  change cutAt jpegEoi (0xff :: 0xd8 :: (replicate zeros 0 ++ [0xff, 0xd9])) = _
  rw [cutAt, if_neg (by simp [jpegEoi]), cutAt, if_neg (by simp [jpegEoi])]
  change ((cutAt [0xff, 0xd9] _).map _).map _ = _
  rw [ends]
  rfl

theorem length_zeroImage (zeros : Nat) : (zeroImage zeros).length = zeros + 4 := by
  simp [zeroImage, jpegSoi, jpegEoi]

/-- An image as large as the parser lets through is emitted, but no record is made of it. -/
theorem largestImage_undelivered :
    emit [] [zeroImage (maxHostFrameBytes - 4)] = ([zeroImage (maxHostFrameBytes - 4)], none) ∧
      jpegFrameRecord (zeroImage (maxHostFrameBytes - 4)) 1 1 =
        .error "Linux WebSocket host JPEG frame is out of bounds" := by
  have length := length_zeroImage (maxHostFrameBytes - 4)
  rw [Nat.sub_add_cancel (by decide)] at length
  constructor
  · obtain ⟨emitted, thrown⟩ :=
      emit_eq (fun _ => rfl : Alike [] []) rfl [zeroImage (maxHostFrameBytes - 4)]
    rw [List.nil_append, clean_flatten (List.forall_mem_singleton.mpr (zeroImage_isImage _))
      (List.forall_mem_singleton.mpr length.le)] at emitted thrown
    exact Prod.ext emitted
      (Option.isNone_iff_eq_none.mp (Option.isSome_eq_false_iff.mp thrown))
  · unfold jpegFrameRecord
    rw [length, if_pos (.inr (by decide))]

end JpegFrameParser

end ExecutionHandoff.Host
