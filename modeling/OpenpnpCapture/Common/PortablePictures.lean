/-
# Common.PortablePictures — one picture, three cameras, one feed

The same picture comes bottom up and as B, G, R on Windows, as ARGB on macOS, as RGB24 on Linux, and
each platform undoes its own form.  A program that is moved from one to another therefore sees the
same feed, whatever it calls in between (`one_feed`).
-/
import OpenpnpCapture.Linux.PictureFeed
import OpenpnpCapture.Mac.PictureFeed
import OpenpnpCapture.Win.PictureFeed

namespace OpenpnpCapture.Common

open OpenpnpCapture.Lib

set_option autoImplicit false

section Forms

variable (width height : UInt32) (image : Bytes)

/-- The picture as DirectShow delivers it. -/
def asSample : Option Win.MediaSample :=
  some
    { GetActualDataLength := imageBytes width height
      GetPointer := some ((List.range (imageBytes width height)).map fun offset =>
        image.getD (Win.flipPlace height.toNat width.toNat offset) 0)
      counted := by simp }

/-- The picture as AVFoundation delivers it, opaque and in packed rows. -/
def asPixelBuffer : Mac.SampleBuffer where
  numSamples := 1
  dataBuffer := none
  imageBuffer := some
    { baseAddress := fun offset =>
        if offset % 4 = 0 then 255 else image.getD (3 * (offset / 4) + (offset % 4 - 1)) 0
      height := height.toNat
      bytesPerRow := 4 * width.toNat }

/-- The picture as V4L2 delivers it. -/
def asRgb24 (tj : TurboJpeg) : Linux.Captured where
  tj := tj
  buf :=
    { start := fun offset => image.getD offset 0
      bytesused := .ofNat (imageBytes width height) }

end Forms

section Develop

variable {width height : UInt32} {image : Bytes}

theorem getElem?_of_cell (sized : image.length = imageBytes width height) {row col channel : Nat}
    (inRows : row < height.toNat) (inCols : col < width.toNat) (inPixel : channel < 3) :
    image[3 * (row * width.toNat + col) + channel]? =
      some (image.getD (3 * (row * width.toNat + col) + channel) 0) := by
  have inside := cell_lt_imageBytes inRows inCols inPixel
  rw [List.getD_eq_getElem?_getD, List.getElem?_eq_getElem (sized.symm ▸ inside)]
  rfl

theorem whole_asSample (image : Bytes) :
    Win.Whole width height (asSample width height image) := by
  rintro given ⟨⟩ -
  exact Nat.le_refl _

theorem sampleMemory_asSample (image : Bytes) {offset : Nat}
    (inside : offset < imageBytes width height) :
    Win.sampleMemory ((List.range (imageBytes width height)).map fun offset =>
        image.getD (Win.flipPlace height.toNat width.toNat offset) 0) offset =
      image.getD (Win.flipPlace height.toNat width.toNat offset) 0 := by
  rw [Win.sampleMemory, List.getD_eq_getElem?_getD, List.getElem?_map, List.getElem?_range inside]
  rfl

theorem develop_asSample (sized : image.length = imageBytes width height) :
    Win.develop width height (asSample width height image) = some image := by
  rw [asSample, Win.develop, if_pos (Nat.le_refl _), Option.map_some, Win.bottomUpPicture]
  congr 1
  symm
  refine eq_picture sized fun row inRows col inCols channel inPixel => ?_
  have mirrored : (height.toNat - row - 1) * (width.toNat * 3) + 3 * col + (2 - channel) =
      3 * ((height.toNat - 1 - row) * width.toNat + col) + (2 - channel) := by
    rw [Nat.sub_right_comm, ← Nat.mul_assoc]
    omega
  have row_back : height.toNat - 1 - (height.toNat - 1 - row) = row := by omega
  have channel_back : 2 - (2 - channel) = channel := by omega
  have inside : 3 * ((height.toNat - 1 - row) * width.toNat + col) + (2 - channel) <
      imageBytes width height :=
    cell_lt_imageBytes (by omega) inCols (by omega)
  rw [getElem?_of_cell sized inRows inCols inPixel, mirrored, sampleMemory_asSample image inside,
    Win.flipPlace_cell inCols (by omega), row_back, channel_back]

theorem develop_asPixelBuffer (pixels : imageBytes width height ≠ 0)
    (sized : image.length = imageBytes width height) :
    Mac.develop width height (asPixelBuffer width height image) = some image := by
  have shown : ¬ ((1 : Int) < 1 ∨ imageBytes width height = 0) := by
    rintro (none | empty)
    · exact Int.lt_irrefl 1 none
    · exact pixels empty
  rw [asPixelBuffer, Mac.develop, if_neg shown, Option.map_some, Mac.argbPicture]
  congr 1
  symm
  refine eq_picture sized fun row inRows col inCols channel inPixel => ?_
  have pixel : row * (4 * width.toNat) + 4 * col + 1 + channel =
      4 * (row * width.toNat + col) + (1 + channel) := by
    rw [Nat.mul_left_comm]
    omega
  have cell : (4 * (row * width.toNat + col) + (1 + channel)) / 4 = row * width.toNat + col := by
    omega
  have byte : (4 * (row * width.toNat + col) + (1 + channel)) % 4 = 1 + channel := by omega
  rw [getElem?_of_cell sized inRows inCols inPixel]
  simp only [pixel, cell, byte, Nat.add_sub_cancel_left]
  rw [if_neg (by omega)]

theorem develop_asRgb24 (small : imageBytes width height < 2 ^ 32) (tj : TurboJpeg)
    (sized : image.length = imageBytes width height) :
    Linux.Whole .RGB24 width height (asRgb24 width height image tj) ∧
      Linux.develop .RGB24 width height (asRgb24 width height image tj) = some image := by
  have counted : (UInt32.ofNat (imageBytes width height)).toNat = imageBytes width height :=
    UInt32.toNat_ofNat_of_lt small
  refine ⟨Nat.le_of_eq counted.symm, ?_⟩
  rw [asRgb24, Linux.develop, if_pos (Nat.le_of_eq counted), Linux.rgb24Picture]
  congr 1
  symm
  exact eq_picture sized fun row inRows col inCols channel inPixel =>
    getElem?_of_cell sized inRows inCols inPixel

end Develop

/-- **One feed.**  Three open streams of one size that are not raw, one on each platform, that show
one feed.  In every interleaving of pictures, each delivered in the platform's own form, and calls,
all three answer as the feed of these pictures does. -/
theorem one_feed {width height : UInt32} (small : imageBytes width height < 2 ^ 32)
    (pixels : imageBytes width height ≠ 0) {convert : Mac.Conversion}
    (rows : Mac.ConvertsRows convert) (tj : TurboJpeg)
    {handler : Except Win.SampleFault Win.StreamCallbackHandler}
    {macStream : Mac.PlatformStream} {linuxStream : Linux.PlatformStream}
    {sWin sMac sLinux : Stream}
    (heldWin : Win.Carries width height handler sWin)
    (heldMac : Mac.Carries width height macStream sMac)
    (heldLinux : Linux.Carries .RGB24 width height linuxStream sLinux) {feed : Feed}
    (onWin : Feed.of sWin = feed) (onMac : Feed.of sMac = feed) (onLinux : Feed.of sLinux = feed)
    {events : List (FeedEvent Bytes)}
    (wholes : ∀ image, .arrives image ∈ events → image.length = imageBytes width height) :
    Components.answers Win.StreamCallbackHandler.pipeline.step handler
        (events.map (.encode (asSample width height))) =
        Components.answers (Feed.step some) feed events ∧
      Components.answers (Mac.PlatformStream.pipeline convert).step macStream
        (events.map (.encode (asPixelBuffer width height))) =
        Components.answers (Feed.step some) feed events ∧
      Components.answers Linux.pipeline.step linuxStream
        (events.map (.encode fun image => asRgb24 width height image tj)) =
        Components.answers (Feed.step some) feed events := by
  subst onWin
  refine ⟨?_, ?_, ?_⟩
  · exact (Win.pipeline_develops width height small).answers_encode heldWin _ fun image arrived =>
      ⟨whole_asSample image, develop_asSample (wholes image arrived)⟩
  · rw [← onMac]
    refine (Mac.pipeline_develops rows width height small).answers_encode heldMac _ ?_
    intro image arrived
    refine ⟨?_, develop_asPixelBuffer pixels (wholes image arrived)⟩
    rintro pixelBuffer ⟨⟩
    exact .inr rfl
  · rw [← onLinux]
    exact (Linux.pipeline_develops .RGB24 width height small).answers_encode heldLinux _
      fun image arrived => develop_asRgb24 small tj (wholes image arrived)

/-- Two pixels, captured after they arrived. -/
theorem one_feed_two_pixels :
    let events : List (FeedEvent Bytes) :=
      [.arrives [1, 2, 3, 4, 5, 6], .asks (.captureFrame (List.replicate 6 0) 6)]
    let told : List Reply := [.none, .frame true (some [1, 2, 3, 4, 5, 6])]
    Components.answers Win.StreamCallbackHandler.pipeline.step
        (.ok (.new (.new ((Stream.new 0 0).opened 2 1 6))))
        (events.map (.encode (asSample 2 1))) = told ∧
      Components.answers (Mac.PlatformStream.pipeline Mac.convertRows).step (Mac.openedStream 2 1)
        (events.map (.encode (asPixelBuffer 2 1))) = told ∧
      Components.answers Linux.pipeline.step (.ofFormat 2 1 (Linux.v4l2_fourcc 'R' 'G' 'B' '3'))
        (events.map (.encode fun image => asRgb24 2 1 image Linux.whiteDecoder)) = told := by
  intro events told
  have ready : OpenRgb 2 1 ((Stream.new 0 0).opened 2 1 6) := ⟨rfl, rfl, rfl, rfl, rfl⟩
  refine one_feed (by decide) (by decide)
    Mac.convertRows_converts Linux.whiteDecoder ⟨ready, _, _, rfl, rfl, rfl⟩ ⟨ready, rfl⟩
    ⟨ready, by decide, rfl⟩ rfl rfl rfl ?_
  intro image member
  simp only [events, List.mem_cons, FeedEvent.arrives.injEq, reduceCtorEq, List.not_mem_nil,
    or_false] at member
  rw [member]
  rfl

end OpenpnpCapture.Common
