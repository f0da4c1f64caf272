import OsExercises.Foundation.Scanning
import OsExercises.ImageFilter.Result

/-! # Reading and writing images

The image files of cw08/zad1. `main` copies the header of its input word by word and
writes every pixel on a line of its own; its own reader takes such a file apart again.
All words of its two input files go through one array of 70 characters. -/

namespace OsExercises.ImageFilter

open OsExercises

/-- `char buffer[70]` -/
def bufferSize : Nat := 70

def stringToInt (s : Text) : Int :=
  (cString s).foldl (fun result character =>
    int32 (int32 (result * 10) + (charValue character - charValue '0'))) 0

/-! ## The program -/

/-- The words that `main` finds in the header and copies to its output. -/
structure Header where
  format : Text
  width : Text
  height : Text
  maxGreyValue : Text

def readHeader (scanner : Scanner) : Option (Header × Scanner) := do
  let afterFormat ← scanner.scanWord bufferSize
  let afterWidth ← afterFormat.scanWord bufferSize
  let afterHeight ← afterWidth.scanWord bufferSize
  let afterMaxGreyValue ← afterHeight.scanWord bufferSize
  let header : Header :=
    { format := cString afterFormat.buffer
      width := cString afterWidth.buffer
      height := cString afterHeight.buffer
      maxGreyValue := cString afterMaxGreyValue.buffer }
  return (header, afterMaxGreyValue)

/-- What the calls of `fwrite` for the header put into the file. -/
def Header.text (header : Header) : Text :=
  header.format ++ '\n' :: (header.width ++ ' ' :: (header.height ++ '\n' ::
    (header.maxGreyValue ++ ['\n'])))

/-- `"%d\n"` of one pixel. -/
def pixelLine (imgOutArray : Int → Int → Int) (i j : Nat) : Text :=
  decimal (imgOutArray i j) ++ ['\n']

/-- The loops that write `img_out_array`. -/
def pixelText (height width : Int) (imgOutArray : Int → Int → Int) : Text :=
  (List.range height.toNat).flatMap fun i =>
    (List.range width.toNat).flatMap fun j => pixelLine imgOutArray i j

def readPixel (state : Scanner × (Int → Int → Int)) (i j : Nat) :
    Option (Scanner × (Int → Int → Int)) :=
  (state.1.scanWord bufferSize).map fun scanner =>
    (scanner, writePixel state.2 i j (int32 (strtol (cString scanner.buffer))))

/-- The loops that read `img_in_array`. -/
def readPixels (height width : Int) (state : Scanner × (Int → Int → Int)) :
    Option (Scanner × (Int → Int → Int)) :=
  (List.range height.toNat).foldlM (fun state i =>
    (List.range width.toNat).foldlM (fun state j => readPixel state i j) state) state

/-- What `main` has after its reader. -/
structure Image where
  width : Int
  height : Int
  maxGreyValue : Int
  imgInArray : Int → Int → Int

/-- `main` up to the end of the loops that read pixels. `buffer` is what its array holds
at first, and `garbage` what `malloc` leaves in `img_in_array`. -/
def readFile (buffer file : Text) (garbage : Int → Int → Int) :
    Option (Header × Scanner × (Int → Int → Int)) := do
  let (header, scanner) ← readHeader { buffer := buffer, stream := file }
  let (left, imgInArray) ←
    readPixels (stringToInt header.height) (stringToInt header.width) (scanner, garbage)
  return (header, left, imgInArray)

def readImage (buffer file : Text) (garbage : Int → Int → Int) : Option Image :=
  (readFile buffer file garbage).map fun (header, _, imgInArray) =>
    { width := stringToInt header.width
      height := stringToInt header.height
      maxGreyValue := stringToInt header.maxGreyValue
      imgInArray := imgInArray }

/-- The reading of the kernel, without the values of its entries: the size, and as many
words as it has cells. -/
def readKernel (scanner : Scanner) : Option Scanner := do
  let afterSize ← scanner.scanWord bufferSize
  let c := stringToInt afterSize.buffer
  (List.range c.toNat).foldlM (fun scanner _ =>
    (List.range c.toNat).foldlM (fun scanner _ => scanner.scanWord bufferSize) scanner) afterSize

/-- The file that `main` writes when it has read `input` and `kernel` and computed
`img_out_array`. -/
def writtenFile (buffer input kernel : Text) (garbage imgOutArray : Int → Int → Int) :
    Option Text := do
  let (header, scanner, _) ← readFile buffer input garbage
  let _ ← readKernel { buffer := scanner.buffer, stream := kernel }
  return header.text ++
    pixelText (stringToInt header.height) (stringToInt header.width) imgOutArray

/-! ## Headers -/

/-- The words of a header, with blanks between them, at the start of a text. -/
inductive StartsWith (header : Header) : Text → Prop
  | intro {before first second third rest : Text}
      (blanks : ∀ character ∈ before ++ (first ++ (second ++ third)), isSpace character)
      (separate : first ≠ [] ∧ second ≠ [] ∧ third ≠ [])
      (ends : EndsWord isSpace rest) :
      StartsWith header (before ++ (header.format ++ (first ++ (header.width ++ (second ++
        (header.height ++ (third ++ (header.maxGreyValue ++ rest))))))))

/-- The sizes and the greatest grey value are decimal numerals. -/
structure Header.WellFormed (header : Header) : Prop where
  format : header.format = ['P', '2']
  nonempty : header.width ≠ [] ∧ header.height ≠ [] ∧ header.maxGreyValue ≠ []
  digits : ∀ character ∈ header.width ++ (header.height ++ header.maxGreyValue),
    character.isDigit

/-- Every word fits into the array. -/
structure Header.Fits (header : Header) : Prop where
  width : header.width.length < bufferSize
  height : header.height.length < bufferSize
  maxGreyValue : header.maxGreyValue.length < bufferSize

instance (header : Header) : Decidable header.Fits :=
  decidable_of_iff (header.width.length < bufferSize ∧ header.height.length < bufferSize ∧
      header.maxGreyValue.length < bufferSize)
    ⟨fun ⟨width, height, maxGreyValue⟩ => ⟨width, height, maxGreyValue⟩,
      fun fits => ⟨fits.width, fits.height, fits.maxGreyValue⟩⟩

section Header

variable {header : Header} {before first second third rest : Text}

theorem Header.WellFormed.format_isWord (wellFormed : header.WellFormed) :
    IsWord isSpace header.format := by
  rw [wellFormed.format]
  exact ⟨by decide, by decide⟩

theorem Header.WellFormed.isDigit (wellFormed : header.WellFormed) :
    (∀ character ∈ header.width, character.isDigit) ∧
      (∀ character ∈ header.height, character.isDigit) ∧
        ∀ character ∈ header.maxGreyValue, character.isDigit := by
  refine ⟨?_, ?_, ?_⟩ <;> intro character member
  · exact wellFormed.digits character (List.mem_append_left _ member)
  · exact wellFormed.digits character (List.mem_append_right _ (List.mem_append_left _ member))
  · exact wellFormed.digits character (List.mem_append_right _ (List.mem_append_right _ member))

/-- A blank text between two words ends the first of them. -/
theorem endsWord_blanks {blanks : Text} (nonempty : blanks ≠ [])
    (isBlanks : ∀ character ∈ blanks, isSpace character) (rest : Text) :
    EndsWord isSpace (blanks ++ rest) := by
  cases blanks with
  | nil => exact absurd rfl nonempty
  | cons character blanks => exact EndsWord.cons (isBlanks character List.mem_cons_self) _

theorem readHeader_eq (wellFormed : header.WellFormed) (buffer : Text)
    (blanks : ∀ character ∈ before ++ (first ++ (second ++ third)), isSpace character)
    (separate : first ≠ [] ∧ second ≠ [] ∧ third ≠ []) (ends : EndsWord isSpace rest) :
    readHeader
        { buffer := buffer
          stream := before ++ (header.format ++ (first ++ (header.width ++ (second ++
            (header.height ++ (third ++ (header.maxGreyValue ++ rest))))))) } =
      if header.Fits then
        some (header, { buffer := header.maxGreyValue ++ [nul], stream := rest })
      else
        none := by
  simp only [List.forall_mem_append] at blanks
  rcases blanks with ⟨beforeBlanks, firstBlanks, secondBlanks, thirdBlanks⟩
  rcases wellFormed.isDigit with ⟨widthDigits, heightDigits, greyDigits⟩
  have format := Scanner.scanWord_word bufferSize buffer beforeBlanks wellFormed.format_isWord
    (endsWord_blanks separate.1 firstBlanks (header.width ++ (second ++ (header.height ++ (third ++
      (header.maxGreyValue ++ rest))))))
  have width := Scanner.scanWord_word bufferSize (header.format ++ [nul]) firstBlanks
    (isWord_of_digits wellFormed.nonempty.1 widthDigits)
    (endsWord_blanks separate.2.1 secondBlanks (header.height ++ (third ++
      (header.maxGreyValue ++ rest))))
  have height := Scanner.scanWord_word bufferSize (header.width ++ [nul]) secondBlanks
    (isWord_of_digits wellFormed.nonempty.2.1 heightDigits)
    (endsWord_blanks separate.2.2 thirdBlanks (header.maxGreyValue ++ rest))
  have grey := Scanner.scanWord_word bufferSize (header.height ++ [nul]) thirdBlanks
    (isWord_of_digits wellFormed.nonempty.2.2 greyDigits) ends
  have formatFits : header.format.length < bufferSize := by
    rw [wellFormed.format]
    decide
  have formatNul : nul ∉ header.format := by
    rw [wellFormed.format]
    decide
  rw [if_pos formatFits] at format
  rw [readHeader, format]
  simp only [Option.bind_eq_bind, Option.bind_some]
  rw [width]
  by_cases widthFits : header.width.length < bufferSize
  · rw [if_pos widthFits, Option.bind_some, height]
    by_cases heightFits : header.height.length < bufferSize
    · rw [if_pos heightFits, Option.bind_some, grey]
      by_cases greyFits : header.maxGreyValue.length < bufferSize
      · rw [if_pos greyFits, Option.bind_some, if_pos ⟨widthFits, heightFits, greyFits⟩,
          cString_append_nul formatNul, cString_append_nul (nul_not_mem_digits widthDigits),
          cString_append_nul (nul_not_mem_digits heightDigits),
          cString_append_nul (nul_not_mem_digits greyDigits)]
        rfl
      · rw [if_neg greyFits, if_neg (fun fits => greyFits fits.maxGreyValue)]
        rfl
    · rw [if_neg heightFits, if_neg (fun fits => heightFits fits.height)]
      rfl
  · rw [if_neg widthFits, if_neg (fun fits => widthFits fits.width)]
    rfl

/-- The words of a text that starts with a header. -/
theorem StartsWith.words_eq (wellFormed : header.WellFormed) {input : Text}
    (starts : StartsWith header input) :
    ∃ rest, (∀ buffer, readHeader { buffer := buffer, stream := input } =
        if header.Fits then
          some (header, { buffer := header.maxGreyValue ++ [nul], stream := rest })
        else
          none) ∧
      words isSpace input =
        [header.format, header.width, header.height, header.maxGreyValue] ++
          words isSpace rest := by
  cases starts with
  | @intro before first second third rest blanks separate ends =>
      refine ⟨rest, fun buffer => readHeader_eq wellFormed buffer blanks separate ends, ?_⟩
      simp only [List.forall_mem_append] at blanks
      rcases blanks with ⟨beforeBlanks, firstBlanks, secondBlanks, thirdBlanks⟩
      rcases wellFormed.isDigit with ⟨widthDigits, heightDigits, greyDigits⟩
      rw [words_next beforeBlanks wellFormed.format_isWord
          (endsWord_blanks separate.1 firstBlanks _),
        words_next firstBlanks (isWord_of_digits wellFormed.nonempty.1 widthDigits)
          (endsWord_blanks separate.2.1 secondBlanks _),
        words_next secondBlanks (isWord_of_digits wellFormed.nonempty.2.1 heightDigits)
          (endsWord_blanks separate.2.2 thirdBlanks _),
        words_next thirdBlanks (isWord_of_digits wellFormed.nonempty.2.2 greyDigits) ends]
      rfl

theorem readHeader_text (wellFormed : header.WellFormed) (fits : header.Fits)
    (buffer pixels : Text) :
    readHeader { buffer := buffer, stream := header.text ++ pixels } =
      some (header, { buffer := header.maxGreyValue ++ [nul], stream := '\n' :: pixels }) := by
  have read := @readHeader_eq header [] ['\n'] [' '] ['\n'] ('\n' :: pixels) wellFormed buffer
    (by decide) (by decide) (EndsWord.cons (by decide) pixels)
  rw [if_pos fits] at read
  simpa [Header.text] using read

end Header

/-! ## Pixels -/

/-- The loops that read pixels take a word for each. -/
theorem scans_readPixels (height width : Int) :
    Scans bufferSize Prod.fst (height.toNat * width.toNat) (readPixels height width) := by
  apply Scans.loops
  intro i j
  exact Scans.scanWord bufferSize fun _ _ => rfl

/-- Whatever the array holds, `read` takes the lines of `text` off a file that stands at
the end of a line. -/
def Reads (read : Scanner × (Int → Int → Int) → Option (Scanner × (Int → Int → Int)))
    (text : Text) (effect : (Int → Int → Int) → Int → Int → Int) : Prop :=
  ∀ buffer rest array, ∃ left,
    read ({ buffer := buffer, stream := '\n' :: (text ++ rest) }, array) =
      some ({ buffer := left, stream := '\n' :: rest }, effect array)

/-- A loop reads what a loop has written. -/
theorem Reads.foldlM
    {read : Scanner × (Int → Int → Int) → Nat → Option (Scanner × (Int → Int → Int))}
    {text : Nat → Text} {effect : (Int → Int → Int) → Nat → Int → Int → Int}
    (each : ∀ index, Reads (read · index) (text index) (effect · index)) (indices : List Nat) :
    Reads (indices.foldlM read) (indices.flatMap text) (indices.foldl effect) := by
  induction indices with
  | nil => exact fun buffer rest array => ⟨buffer, rfl⟩
  | cons index indices induction =>
      intro buffer rest array
      rcases each index buffer (indices.flatMap text ++ rest) array with ⟨middle, first⟩
      rcases induction middle rest (effect array index) with ⟨left, others⟩
      refine ⟨left, ?_⟩
      have lines : (index :: indices).flatMap text ++ rest =
          text index ++ (indices.flatMap text ++ rest) := by
        rw [List.flatMap_cons, List.append_assoc]
      beta_reduce at first
      simp only [lines, List.foldlM_cons, first]
      exact others

theorem readPixel_reads {imgOutArray : Int → Int → Int}
    (ints : ∀ x y, -(2 ^ 31) ≤ imgOutArray x y ∧ imgOutArray x y < 2 ^ 31) (i j : Nat) :
    Reads (fun state => readPixel state i j) (pixelLine imgOutArray i j)
      (fun array => writePixel array i j (imgOutArray i j)) := by
  intro buffer rest array
  rcases ints i j with ⟨lower, upper⟩
  have fits : (decimal (imgOutArray i j)).length < bufferSize :=
    Nat.lt_of_le_of_lt (length_decimal (by omega)) (by decide)
  have newline : ∀ character ∈ ['\n'], isSpace character := by decide
  have ends : EndsWord isSpace ('\n' :: rest) := EndsWord.cons (by decide) rest
  have word := Scanner.scanWord_word bufferSize buffer newline (isWord_decimal (imgOutArray i j))
    ends
  rw [if_pos fits] at word
  have number : int32 (strtol (cString (decimal (imgOutArray i j) ++ [nul]))) =
      imgOutArray i j := by
    rw [cString_append_nul (nul_not_mem_decimal _), strtol_decimal (by omega) (by omega),
      int32_of_bounds lower upper]
  refine ⟨decimal (imgOutArray i j) ++ [nul], ?_⟩
  simp only [pixelLine, List.append_assoc, readPixel]
  have scanned : Scanner.scanWord bufferSize
      { buffer := buffer, stream := '\n' :: (decimal (imgOutArray i j) ++ (['\n'] ++ rest)) } =
      some { buffer := decimal (imgOutArray i j) ++ [nul], stream := '\n' :: rest } := word
  rw [scanned, Option.map_some, number]

theorem readPixels_reads {imgOutArray : Int → Int → Int}
    (ints : ∀ x y, -(2 ^ 31) ≤ imgOutArray x y ∧ imgOutArray x y < 2 ^ 31) (height width : Int) :
    Reads (readPixels height width) (pixelText height width imgOutArray)
      (fun array => (List.range height.toNat).foldl (fun array (i : Nat) =>
        (List.range width.toNat).foldl
          (fun array (j : Nat) => writePixel array i j (imgOutArray i j)) array) array) :=
  Reads.foldlM (fun i => Reads.foldlM (readPixel_reads ints i) (List.range width.toNat))
    (List.range height.toNat)

/-! ## Kernels -/

/-- The words that are read from the kernel file fit into the array. -/
def KernelFits (kernel : Text) : Prop :=
  let c := stringToInt ((words isSpace kernel).headD [])
  ∀ word ∈ (words isSpace kernel).take (1 + c.toNat * c.toNat), word.length < bufferSize

instance (kernel : Text) : Decidable (KernelFits kernel) :=
  inferInstanceAs (Decidable (∀ _ ∈ List.take _ _, _ < _))

theorem stringToInt_nul (text : Text) : stringToInt (text ++ [nul]) = stringToInt text := by
  rw [stringToInt, cString_append_end]
  rfl

theorem readKernel_iff (buffer kernel : Text) :
    (∃ left, readKernel { buffer := buffer, stream := kernel } = some left) ↔
      KernelFits kernel := by
  have cells (c : Nat) : Scans bufferSize id (c * c) fun scanner =>
      (List.range c).foldlM (fun scanner _ =>
        (List.range c).foldlM (fun scanner _ => Scanner.scanWord bufferSize scanner) scanner)
        scanner := by
    apply Scans.loops
    intro i j
    have word := @Scans.scanWord Scanner id bufferSize (fun _ left => left) fun _ _ => rfl
    simpa using word
  unfold readKernel KernelFits
  cases next : words isSpace kernel with
  | nil =>
      have blank : words isSpace (Scanner.mk buffer kernel).stream = [] := next
      have left := ((cells (stringToInt buffer).toNat).isSome_iff
        { buffer := buffer, stream := [] }).mpr (by simp)
      simpa [Scanner.scanWord_end bufferSize blank] using left
  | cons size weights =>
      have first : words isSpace (Scanner.mk buffer kernel).stream = size :: weights := next
      rcases Scanner.scanWord_next bufferSize first with ⟨rest, others, read⟩
      rw [read]
      by_cases fits : size.length < bufferSize
      · have loops := (cells (stringToInt size).toNat).isSome_iff
          { buffer := size ++ [nul], stream := rest }
        simp only [id_eq, others] at loops
        simpa [fits, stringToInt_nul, Nat.add_comm 1] using loops
      · simp [fits, Nat.add_comm 1]

/-! ## Round trips -/

/-- The words that are read from the image file fit into the array. -/
def ImageFits (header : Header) (input : Text) : Prop :=
  ∀ word ∈ (words isSpace input).take
      (4 + (stringToInt header.height).toNat * (stringToInt header.width).toNat),
    word.length < bufferSize

instance (header : Header) (input : Text) : Decidable (ImageFits header input) :=
  inferInstanceAs (Decidable (∀ _ ∈ List.take _ _, _ < _))

/-- The file that `main` writes gives its reader the numbers of the header and the
pixels of `img_out_array`, whatever is in memory that nobody has set. -/
def RoundTrips (header : Header) (input kernel : Text) (imgOutArray : Int → Int → Int) : Prop :=
  ∀ buffer garbage buffer' garbage', ∃ file image,
    writtenFile buffer input kernel garbage imgOutArray = some file ∧
      readImage buffer' file garbage' = some image ∧
      image.width = stringToInt header.width ∧ image.height = stringToInt header.height ∧
      image.maxGreyValue = stringToInt header.maxGreyValue ∧
      ∀ i j, 0 ≤ i ∧ i < image.height → 0 ≤ j ∧ j < image.width →
        image.imgInArray i j = imgOutArray i j

theorem imageFits_iff {header : Header} (wellFormed : header.WellFormed) {input rest : Text}
    (split : words isSpace input =
      [header.format, header.width, header.height, header.maxGreyValue] ++ words isSpace rest) :
    ImageFits header input ↔ header.Fits ∧
      ∀ word ∈ (words isSpace rest).take
          ((stringToInt header.height).toNat * (stringToInt header.width).toNat),
        word.length < bufferSize := by
  have format : header.format.length < bufferSize := by
    rw [wellFormed.format]
    decide
  have whole (more : Nat) :
      [header.format, header.width, header.height, header.maxGreyValue].take (4 + more) =
        [header.format, header.width, header.height, header.maxGreyValue] :=
    List.take_of_length_le (Nat.le_add_right 4 more)
  unfold ImageFits
  rw [split, List.take_append, List.forall_mem_append, whole]
  constructor
  · intro fit
    refine ⟨⟨?_, ?_, ?_⟩, by simpa using fit.2⟩ <;> exact fit.1 _ (by simp)
  · intro fit
    refine ⟨?_, by simpa using fit.2⟩
    intro word member
    simp only [List.mem_cons, List.not_mem_nil, or_false] at member
    rcases member with rfl | rfl | rfl | rfl
    · exact format
    · exact fit.1.width
    · exact fit.1.height
    · exact fit.1.maxGreyValue

/-- The file is written exactly when all words that are read before fit into the array. -/
theorem writtenFile_iff {header : Header} (wellFormed : header.WellFormed) {input : Text}
    (starts : StartsWith header input) (buffer kernel file : Text)
    (garbage imgOutArray : Int → Int → Int) :
    writtenFile buffer input kernel garbage imgOutArray = some file ↔
      (ImageFits header input ∧ KernelFits kernel) ∧ header.text ++
        pixelText (stringToInt header.height) (stringToInt header.width) imgOutArray = file := by
  rcases starts.words_eq wellFormed with ⟨rest, read, split⟩
  rw [imageFits_iff wellFormed split, writtenFile, readFile, read buffer]
  by_cases fits : header.Fits
  · have pixels := (scans_readPixels (stringToInt header.height)
      (stringToInt header.width)).isSome_iff
        ({ buffer := header.maxGreyValue ++ [nul], stream := rest }, garbage)
    simp only [if_pos fits, Option.bind_eq_bind, Option.bind_some, Option.pure_def]
    cases taken : readPixels (stringToInt header.height) (stringToInt header.width)
        ({ buffer := header.maxGreyValue ++ [nul], stream := rest }, garbage) with
    | none =>
        have long := mt pixels.mpr (by simp [taken])
        simp [long]
    | some left =>
        have fit : ∀ word ∈ (words isSpace rest).take
            ((stringToInt header.height).toNat * (stringToInt header.width).toNat),
            word.length < bufferSize := pixels.mp ⟨left, taken⟩
        have kernels := readKernel_iff left.1.buffer kernel
        simp only [Option.bind_some]
        cases scanned : readKernel { buffer := left.1.buffer, stream := kernel } with
        | none =>
            have long := mt kernels.mpr (by simp [scanned])
            simp [long]
        | some last =>
            have small := kernels.mp ⟨last, scanned⟩
            simpa [fits, small] using fun _ => fit
  · simp [fits]

theorem readImage_written {header : Header} (wellFormed : header.WellFormed)
    (fits : header.Fits) {imgOutArray : Int → Int → Int}
    (ints : ∀ x y, -(2 ^ 31) ≤ imgOutArray x y ∧ imgOutArray x y < 2 ^ 31) (buffer : Text)
    (garbage : Int → Int → Int) :
    readImage buffer (header.text ++
        pixelText (stringToInt header.height) (stringToInt header.width) imgOutArray) garbage =
      some
        { width := stringToInt header.width
          height := stringToInt header.height
          maxGreyValue := stringToInt header.maxGreyValue
          imgInArray := (List.range (stringToInt header.height).toNat).foldl
            (fun array (i : Nat) => (List.range (stringToInt header.width).toNat).foldl
              (fun array (j : Nat) => writePixel array i j (imgOutArray i j)) array) garbage } := by
  rcases readPixels_reads ints (stringToInt header.height) (stringToInt header.width)
    (header.maxGreyValue ++ [nul]) [] garbage with ⟨left, pixels⟩
  rw [List.append_nil] at pixels
  simp only [readImage, readFile, readHeader_text wellFormed fits, Option.bind_eq_bind,
    Option.bind_some, pixels]
  rfl

/-- Main's own reader understands its files unless a word of its two input files is too
long for the array. -/
theorem round_trips_iff {header : Header} (wellFormed : header.WellFormed) {input : Text}
    (starts : StartsWith header input) (kernel : Text) {imgOutArray : Int → Int → Int}
    (ints : ∀ x y, -(2 ^ 31) ≤ imgOutArray x y ∧ imgOutArray x y < 2 ^ 31) :
    RoundTrips header input kernel imgOutArray ↔ ImageFits header input ∧ KernelFits kernel := by
  constructor
  · intro roundTrips
    rcases roundTrips [] imgOutArray [] imgOutArray with ⟨file, _, written, _⟩
    exact ((writtenFile_iff wellFormed starts _ _ _ _ _).mp written).1
  · intro fit buffer garbage buffer' garbage'
    rcases starts.words_eq wellFormed with ⟨rest, _, split⟩
    have fits := ((imageFits_iff wellFormed split).mp fit.1).1
    refine ⟨_, _, (writtenFile_iff wellFormed starts _ _ _ _ _).mpr ⟨fit, rfl⟩,
      readImage_written wellFormed fits ints buffer' garbage', rfl, rfl, rfl, ?_⟩
    intro i j row column
    simp only at row column
    exact foldl_rows_apply imgOutArray garbage' (by omega) (by omega)

theorem startsWith_text (header : Header) (pixels : Text) :
    StartsWith header (header.text ++ pixels) := by
  have layout := @StartsWith.intro header [] ['\n'] [' '] ['\n'] ('\n' :: pixels) (by decide)
    (by decide) (EndsWord.cons (by decide) pixels)
  simpa [Header.text] using layout

/-- The header of an image of two pixels whose width is written in the given way. -/
def headerOfWidth (width : Text) : Header where
  format := ['P', '2']
  width := width
  height := ['1']
  maxGreyValue := ['2', '5', '5']

theorem wellFormed_headerOfWidth {width : Text} (nonempty : width ≠ [])
    (digits : ∀ character ∈ width, character.isDigit) : (headerOfWidth width).WellFormed where
  format := rfl
  nonempty := ⟨nonempty, List.cons_ne_nil _ _, List.cons_ne_nil _ _⟩
  digits := by
    rw [List.forall_mem_append]
    refine ⟨digits, ?_⟩
    simp only [headerOfWidth]
    decide

/-- An image of two pixels. -/
def twoPixels (width : Text) : Text :=
  (headerOfWidth width).text ++ ['7', ' ', '0']

/-- A kernel of one cell. -/
def oneCell : Text := ['1', '\n', '1', '\n']

theorem round_trips_iff_two :
    RoundTrips (headerOfWidth ['2']) (twoPixels ['2']) oneCell (fun _ _ => -3) ↔
      ImageFits (headerOfWidth ['2']) (twoPixels ['2']) ∧ KernelFits oneCell :=
  round_trips_iff (wellFormed_headerOfWidth (by decide) (by decide)) (startsWith_text _ _) oneCell
    (fun _ _ => by omega)

/-- The number 2 in 70 digits. -/
def longTwo : Text := List.replicate 69 '0' ++ ['2']

theorem longTwo_not_read :
    (headerOfWidth longTwo).WellFormed ∧
      StartsWith (headerOfWidth longTwo) (twoPixels longTwo) ∧
        ¬ RoundTrips (headerOfWidth longTwo) (twoPixels longTwo) oneCell (fun _ _ => 0) := by
  have wellFormed : (headerOfWidth longTwo).WellFormed :=
    wellFormed_headerOfWidth (by decide) (by decide)
  refine ⟨wellFormed, startsWith_text _ _, ?_⟩
  intro roundTrips
  rcases roundTrips [] (fun _ _ => 0) [] (fun _ _ => 0) with ⟨file, _, written, _⟩
  have fit := ((writtenFile_iff wellFormed (startsWith_text _ _) _ _ _ _ _).mp written).1.1
  rcases (startsWith_text (headerOfWidth longTwo) ['7', ' ', '0']).words_eq wellFormed with
    ⟨rest, _, split⟩
  have fits := ((imageFits_iff wellFormed split).mp fit).1
  exact absurd fits (by decide)

end OsExercises.ImageFilter
