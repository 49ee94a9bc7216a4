import DetectBase.Detector.FrameFolders
import DetectBase.Foundations.FloatArithmetic
import DetectBase.Foundations.Markup
import DetectBase.Foundations.NumberTexts
import Mathlib.Data.Rat.Defs
import Mathlib.Tactic.Linarith
import Mathlib.Tactic.FieldSimp

/-!
# The metadata of a frame

`ConvertTrackingBoxesToMetaData` writes what was found in a frame as an XML document, which goes to
the clients of the stream. The document is put together from pieces of text, and nothing is escaped.

It is a document all the same, and a client that goes down the path of the elements gets the time of
the frame and, for each object in its order, the class, the corners of the box without their
fractions, the track, and the score up to half a hundredth
(`DetectBase.Metadata.receive_convert`).
-/

namespace DetectBase.Metadata

open Markup

/-! ### The writer -/

/-- A number of hundredths. -/
def hundredths (x : BinaryFloat binary32) : ℕ :=
  roundEven (100 * x.units.natAbs) (2 ^ binary32.scale)

/-- `std::fixed` with a precision of 2. -/
def fixedTwo : Single → String
  | .finite x =>
    (if x.units < 0 then "-" else "") ++ toString (hundredths x / 100) ++ "." ++
      Abnormal.padTwo (hundredths x % 100)
  | .infinite neg => if neg then "-inf" else "inf"

/-- `static_cast<int>` of a `float` that fits: beyond the range of an `int`, where C++ does not say
what it gives, it is the end of the range here. -/
def castInt (x : Single) : ℤ := x.truncate (-2 ^ 31) (2 ^ 31 - 1)

/-- `current_utc_time`. -/
def frameTime (now : EventTime) (ms : ℕ) : String :=
  now.date ++ "T" ++ now.clock ":" ++ "." ++ zeroPadded 3 ms

/-- `xml_header`. -/
def xmlHeader (time : String) : String :=
  "<?xml version=\"1.0\" encoding=\"UTF-8\"?>" ++
  "<tt:MetadataStream xmlns:tt=\"http://www.onvif.org/ver10/schema\">" ++
  "<tt:VideoAnalytics>" ++
  "<tt:Frame UtcTime=\"" ++ time ++ "\">"

/-- `postXml`. -/
def postXml : String :=
  "</tt:Frame>" ++
  "</tt:VideoAnalytics>" ++
  "</tt:MetadataStream>"

/-- `objectxml`. -/
def objectXml (o : InferObject) : String :=
  "<tt:Object ObjectId=\"" ++ toString o.classId ++ "\">" ++
    "<tt:Appearance>" ++
      "<tt:Shape>" ++
        "<tt:BoundingBox left=\"" ++ toString (castInt o.bbox.x) ++ "\" " ++
        "top=\"" ++ toString (castInt o.bbox.y) ++ "\" " ++
        "right=\"" ++ toString (castInt (o.bbox.w.add o.bbox.x)) ++ "\" " ++
        "bottom=\"" ++ toString (castInt (o.bbox.h.add o.bbox.y)) ++ "\" />" ++
        "<tt:TrackId trackid=\"" ++ toString o.trackId ++ "\" />" ++
        "<tt:CenterOfGravity x=\"60.0\" y=\"50.0\" />" ++
      "</tt:Shape>" ++
      "<tt:Class>" ++
        "<tt:ClassCandidate>" ++
        "<tt:Type>MaybeUnused</tt:Type>" ++
        "<tt:Likelihood>" ++ fixedTwo o.score ++ "</tt:Likelihood>" ++
        "</tt:ClassCandidate>" ++
      "</tt:Class>" ++
    "</tt:Appearance>" ++
  "</tt:Object>"

/-- **`ConvertTrackingBoxesToMetaData`**: `metadata_string`, and what is returned. -/
def convertTrackingBoxesToMetaData (now : EventTime) (ms : ℕ) (inferObjects : List InferObject) :
    String × ℕ :=
  let metadata := inferObjects.foldl (fun s o => s ++ objectXml o)
    ("" ++ xmlHeader (frameTime now ms)) ++ postXml
  (metadata, metadata.utf8ByteSize + 1)

/-! ### The reader -/

/-- What a client gets of an object. -/
structure MetadataObject where
  /-- `ObjectId`. -/
  objectId : ℤ
  /-- `left`. -/
  left : ℤ
  /-- `top`. -/
  top : ℤ
  /-- `right`. -/
  right : ℤ
  /-- `bottom`. -/
  bottom : ℤ
  /-- `trackid`. -/
  trackId : ℤ
  /-- `Likelihood`. -/
  likelihood : ℚ
deriving DecidableEq

/-- An attribute that is a number. -/
def number (key : String) (n : Markup.Node) : Option ℤ :=
  (attributeOf key n).bind fun s => readInt s.toList

/-- An object. -/
def readObject (n : Markup.Node) : Option MetadataObject := do
  let box ← path ["tt:Appearance", "tt:Shape", "tt:BoundingBox"] n
  let track ← path ["tt:Appearance", "tt:Shape", "tt:TrackId"] n
  let candidate ← path ["tt:Appearance", "tt:Class", "tt:ClassCandidate", "tt:Likelihood"] n
  let likelihood ← (characters candidate).bind fun s => readDecimal s.toList
  return ⟨← number "ObjectId" n, ← number "left" box, ← number "top" box, ← number "right" box,
    ← number "bottom" box, ← number "trackid" track, likelihood⟩

/-- **The client**: the time of a frame, and its objects. -/
def receive (t : String) : Option (String × List MetadataObject) := do
  let frame ← path ["tt:VideoAnalytics", "tt:Frame"] (← read t)
  match frame with
  | .element _ _ objects => return (← attributeOf "UtcTime" frame, ← objects.mapM readObject)
  | .text _ => none

/-! ### Scores -/

/-- What a client gets of a score. -/
def seenScore (x : BinaryFloat binary32) : ℚ :=
  if x.units < 0 then -(hundredths x / 100 : ℚ) else hundredths x / 100

/-- **A score is shown up to half a hundredth.** -/
theorem seenScore_near (x : BinaryFloat binary32) : |seenScore x - x.value| ≤ 1 / 200 := by
  have hscale : (0 : ℚ) < 2 ^ binary32.scale := by positivity
  obtain ⟨hle, hge⟩ := roundEven_near (100 * x.units.natAbs) (Nat.two_pow_pos binary32.scale)
  have hle' : (2 * (100 * x.units.natAbs) : ℚ) ≤
      2 * (hundredths x * 2 ^ binary32.scale) + 2 ^ binary32.scale := by
    exact_mod_cast hle
  have hge' : (2 * (hundredths x * 2 ^ binary32.scale) : ℚ) ≤
      2 * (100 * x.units.natAbs) + 2 ^ binary32.scale := by
    exact_mod_cast hge
  have hmagnitude : |(hundredths x / 100 : ℚ) - x.units.natAbs / 2 ^ binary32.scale| ≤ 1 / 200 := by
    rw [abs_le]
    constructor
    · rw [div_sub_div _ _ (by norm_num) hscale.ne', le_div_iff₀ (by positivity)]
      linarith
    · rw [div_sub_div _ _ (by norm_num) hscale.ne', div_le_iff₀ (by positivity)]
      linarith
  rw [seenScore, BinaryFloat.value]
  split_ifs with hneg
  · have hunits : (x.units : ℚ) = -(x.units.natAbs : ℚ) := by
      have := Int.ofNat_natAbs_of_nonpos hneg.le
      rw [← Int.cast_natCast, this, Int.cast_neg, neg_neg]
    rw [hunits, neg_div, ← neg_sub', abs_neg]
    exact hmagnitude
  · have hunits : (x.units : ℚ) = (x.units.natAbs : ℚ) := by
      have := Int.natAbs_of_nonneg (not_lt.mp hneg)
      rw [← Int.cast_natCast, this]
    rw [hunits]
    exact hmagnitude

theorem toList_padTwo {n : ℕ} (h : n < 100) : (Abnormal.padTwo n).toList = fixedDigits 2 n := by
  rw [padTwo_eq_zeroPadded h, toList_zeroPadded (by decide) h]

theorem readDecimal_fixedTwo (x : BinaryFloat binary32) :
    readDecimal (fixedTwo (.finite x)).toList = some (seenScore x) := by
  have hmod : hundredths x % 100 < 10 ^ 2 := Nat.mod_lt _ (by decide)
  have hsum : ((hundredths x / 100 : ℕ) : ℚ) + ((hundredths x % 100 : ℕ) : ℚ) / 10 ^ 2 =
      hundredths x / 100 := by
    have h : ((hundredths x / 100 * 100 + hundredths x % 100 : ℕ) : ℚ) = hundredths x := by
      rw [Nat.div_add_mod']
    push_cast at h
    linarith
  rw [fixedTwo, seenScore]
  split_ifs with hneg
  · rw [← hsum, ← readDecimal_neg _ (by decide) hmod]
    simp [toList_padTwo hmod]
  · rw [← hsum, ← readDecimal_pos _ (by decide) hmod]
    simp [toList_padTwo hmod]

/-! ### The document -/

theorem isValue_append {s t : String} (hs : IsValue s) (ht : IsValue t) : IsValue (s ++ t) := by
  intro c hc
  rw [String.toList_append, List.mem_append] at hc
  exact hc.elim (hs c) (ht c)

/-- Digits may stand in a document. -/
theorem isValue_of_isDigit {s : String} (h : ∀ c ∈ s.toList, c.isDigit = true) : IsValue s := by
  intro c hc
  have hdigit := h c hc
  refine ⟨?_, ?_, ?_⟩ <;> rintro rfl <;> revert hdigit <;> decide

theorem isValue_toString (n : ℕ) : IsValue (toString n) :=
  isValue_of_isDigit fun _ hc => isDigit_of_mem_toString hc

theorem isValue_toString_int (z : ℤ) : IsValue (toString z) := by
  rcases z with n | n
  · exact isValue_toString n
  · exact isValue_append (by decide : IsValue "-") (isValue_toString (n + 1))

theorem isValue_padTwo (n : ℕ) : IsValue (Abnormal.padTwo n) := by
  rw [Abnormal.padTwo]
  split_ifs
  · exact isValue_append (by decide) (isValue_toString n)
  · exact isValue_toString n

theorem isValue_zeroPadded (width n : ℕ) : IsValue (zeroPadded width n) := by
  refine isValue_append (isValue_append ?_ (isValue_of_isDigit fun c hc => ?_))
    (isValue_toString _)
  · split_ifs <;> decide
  · rw [String.toList_ofList] at hc
    rw [(List.mem_replicate.mp hc).2]
    rfl

theorem isValue_frameTime (now : EventTime) (ms : ℕ) : IsValue (frameTime now ms) := by
  have hdate : IsValue now.date :=
    isValue_append (isValue_append (isValue_append (isValue_append (isValue_toString _) (by decide))
      (isValue_padTwo _)) (by decide)) (isValue_padTwo _)
  have hclock : IsValue (now.clock ":") :=
    isValue_append (isValue_append (isValue_append (isValue_append (isValue_padTwo _) (by decide))
      (isValue_padTwo _)) (by decide)) (isValue_padTwo _)
  exact isValue_append (isValue_append (isValue_append (isValue_append hdate (by decide)) hclock)
    (by decide)) (isValue_zeroPadded 3 ms)

theorem isText_fixedTwo (x : Single) : IsText (fixedTwo x) := by
  rcases x with x | neg
  · have hvalue : IsValue (fixedTwo (.finite x)) := by
      refine isValue_append (isValue_append (isValue_append ?_ (isValue_toString _)) (by decide))
        (isValue_padTwo _)
      split_ifs <;> decide
    refine ⟨?_, fun c hc => (hvalue c hc).2⟩
    simp [fixedTwo]
  · rcases neg
    · exact (by decide : IsText "inf")
    · exact (by decide : IsText "-inf")

/-- The attributes of `tt:BoundingBox`. -/
def boxAttributes (o : InferObject) : List (String × String) :=
  [("left", toString (castInt o.bbox.x)), ("top", toString (castInt o.bbox.y)),
    ("right", toString (castInt (o.bbox.w.add o.bbox.x))),
    ("bottom", toString (castInt (o.bbox.h.add o.bbox.y)))]

theorem isAttributes_boxAttributes (o : InferObject) : IsAttributes (boxAttributes o) :=
  .cons (by decide) (isValue_toString_int _) (by simp)
    (.cons (by decide) (isValue_toString_int _) (by simp)
      (.cons (by decide) (isValue_toString_int _) (by simp)
        (.cons (by decide) (isValue_toString_int _) (by simp) .nil)))

/-- The element of an object. -/
def objectNode (o : InferObject) : Markup.Node :=
  .element "tt:Object" [("ObjectId", toString o.classId)]
    [.element "tt:Appearance" [] ([.element "tt:Shape" []
      ([.element "tt:BoundingBox" (boxAttributes o) []] ++
        [.element "tt:TrackId" [("trackid", toString o.trackId)] []] ++
        [.element "tt:CenterOfGravity" [("x", "60.0"), ("y", "50.0")] []])] ++
      [.element "tt:Class" [] [.element "tt:ClassCandidate" []
        ([.element "tt:Type" [] [.text "MaybeUnused"]] ++
          [.element "tt:Likelihood" [] [.text (fixedTwo o.score)]])]])]

/-- The tag of an object. -/
theorem startTag_object (v : String) : startTag "tt:Object" [("ObjectId", v)] =
    "<tt:Object ObjectId=\"".toList ++ v.toList ++ "\">".toList := by
  simp [startTag, tagText, attributeText]

/-- The tag of a box. -/
theorem emptyTag_box (o : InferObject) : emptyTag "tt:BoundingBox" (boxAttributes o) =
    "<tt:BoundingBox left=\"".toList ++ (toString (castInt o.bbox.x)).toList ++ "\" ".toList ++
      "top=\"".toList ++ (toString (castInt o.bbox.y)).toList ++ "\" ".toList ++
      "right=\"".toList ++ (toString (castInt (o.bbox.w.add o.bbox.x))).toList ++ "\" ".toList ++
      "bottom=\"".toList ++ (toString (castInt (o.bbox.h.add o.bbox.y))).toList ++
        "\" />".toList := by
  simp [emptyTag, tagText, attributeText, boxAttributes]

/-- The tag of a track. -/
theorem emptyTag_track (v : String) : emptyTag "tt:TrackId" [("trackid", v)] =
    "<tt:TrackId trackid=\"".toList ++ v.toList ++ "\" />".toList := by
  simp [emptyTag, tagText, attributeText]

/-- **What is written for an object is its element.** -/
theorem writes_objectXml (o : InferObject) : Writes (objectXml o).toList [objectNode o] := by
  have hbox := Writes.empty (by decide : IsName "tt:BoundingBox") (isAttributes_boxAttributes o)
  have htrack := Writes.empty (by decide : IsName "tt:TrackId")
    (.cons (by decide : IsName "trackid") (isValue_toString_int o.trackId) (by simp) .nil)
  have hcenter := Writes.empty (by decide : IsName "tt:CenterOfGravity")
    (⟨by decide, by decide, by decide⟩ : IsAttributes [("x", "60.0"), ("y", "50.0")])
  have htype := Writes.leaf (by decide : IsName "tt:Type") .nil (by decide : IsText "MaybeUnused")
  have hlikelihood := Writes.leaf (by decide : IsName "tt:Likelihood") .nil
    (isText_fixedTwo o.score)
  have hshape := Writes.element (by decide : IsName "tt:Shape") .nil
    ((hbox.append htrack).append hcenter)
  have hclass := Writes.element (by decide : IsName "tt:Class") .nil
    (Writes.element (by decide : IsName "tt:ClassCandidate") .nil (htype.append hlikelihood))
  have hobject := Writes.element (by decide : IsName "tt:Object")
    (.cons (by decide : IsName "ObjectId") (isValue_toString_int o.classId) (by simp) .nil)
    (Writes.element (by decide : IsName "tt:Appearance") .nil (hshape.append hclass))
  have hcenterText : emptyTag "tt:CenterOfGravity" [("x", "60.0"), ("y", "50.0")] =
      "<tt:CenterOfGravity x=\"60.0\" y=\"50.0\" />".toList := rfl
  have htypeText : startTag "tt:Type" [] ++ "MaybeUnused".toList ++ endTag "tt:Type" =
      "<tt:Type>MaybeUnused</tt:Type>".toList := rfl
  have htags : startTag "tt:Appearance" [] = "<tt:Appearance>".toList ∧
      startTag "tt:Shape" [] = "<tt:Shape>".toList ∧
      startTag "tt:Class" [] = "<tt:Class>".toList ∧
      startTag "tt:ClassCandidate" [] = "<tt:ClassCandidate>".toList ∧
      startTag "tt:Likelihood" [] = "<tt:Likelihood>".toList := ⟨rfl, rfl, rfl, rfl, rfl⟩
  have hends : endTag "tt:Object" = "</tt:Object>".toList ∧
      endTag "tt:Appearance" = "</tt:Appearance>".toList ∧
      endTag "tt:Shape" = "</tt:Shape>".toList ∧ endTag "tt:Class" = "</tt:Class>".toList ∧
      endTag "tt:ClassCandidate" = "</tt:ClassCandidate>".toList ∧
      endTag "tt:Likelihood" = "</tt:Likelihood>".toList := ⟨rfl, rfl, rfl, rfl, rfl, rfl⟩
  rw [startTag_object, emptyTag_box, emptyTag_track, hcenterText, htypeText, htags.1, htags.2.1,
    htags.2.2.1, htags.2.2.2.1, htags.2.2.2.2, hends.1, hends.2.1, hends.2.2.1, hends.2.2.2.1,
    hends.2.2.2.2.1, hends.2.2.2.2.2] at hobject
  convert hobject using 1
  · unfold objectXml
    simp only [String.toList_append, List.append_assoc, -String.reduceAppend]
  · rfl

/-- The element of a document. -/
def metadataNode (time : String) (objects : List InferObject) : Markup.Node :=
  .element "tt:MetadataStream" [("xmlns:tt", "http://www.onvif.org/ver10/schema")]
    [.element "tt:VideoAnalytics" []
      [.element "tt:Frame" [("UtcTime", time)] (objects.map objectNode)]]

theorem toList_foldl_objectXml (objects : List InferObject) (s : String) :
    (objects.foldl (fun s o => s ++ objectXml o) s).toList =
      s.toList ++ objects.flatMap fun o => (objectXml o).toList := by
  induction objects generalizing s with
  | nil => exact (List.append_nil _).symm
  | cons o objects ih =>
    rw [List.foldl_cons, ih, String.toList_append, List.flatMap_cons, List.append_assoc]

/-- The text of a document, behind its declaration. -/
theorem exists_content_convert (now : EventTime) (ms : ℕ) (objects : List InferObject) :
    ∃ content, Writes content [metadataNode (frameTime now ms) objects] ∧
      (convertTrackingBoxesToMetaData now ms objects).1.toList =
        declarationText "xml version=\"1.0\" encoding=\"UTF-8\"".toList ++ content := by
  have hframe := Writes.element (by decide : IsName "tt:Frame")
    (.cons (by decide : IsName "UtcTime") (isValue_frameTime now ms) (by simp) .nil)
    (Writes.flatMap fun o (_ : o ∈ objects) => writes_objectXml o)
  have hstream := Writes.element (by decide : IsName "tt:MetadataStream")
    (.cons (by decide : IsName "xmlns:tt")
      (by decide : IsValue "http://www.onvif.org/ver10/schema") (by simp) .nil)
    (Writes.element (by decide : IsName "tt:VideoAnalytics") .nil hframe)
  refine ⟨_, hstream, ?_⟩
  unfold convertTrackingBoxesToMetaData xmlHeader postXml
  simp [toList_foldl_objectXml, startTag, endTag, tagText, attributeText, declarationText]

/-- The declaration has a question mark at its ends only. -/
theorem ne_of_mem_declaration :
    ∀ c ∈ "xml version=\"1.0\" encoding=\"UTF-8\"".toList, c ≠ '?' := by
  have hall : "xml version=\"1.0\" encoding=\"UTF-8\"".toList.all (· != '?') = true := by decide
  exact fun c hc => bne_iff_ne.mp (List.all_eq_true.mp hall c hc)

/-- **What is written is a document**, whatever the objects are. -/
theorem read_convert (now : EventTime) (ms : ℕ) (objects : List InferObject) :
    read (convertTrackingBoxesToMetaData now ms objects).1 =
      some (metadataNode (frameTime now ms) objects) := by
  obtain ⟨content, hwrites, htext⟩ := exists_content_convert now ms objects
  exact read_document ne_of_mem_declaration hwrites htext

/-! ### The client -/

/-- **What a client gets of an object** whose score is a number. -/
def seen (o : InferObject) (x : BinaryFloat binary32) : MetadataObject where
  objectId := o.classId
  left := castInt o.bbox.x
  top := castInt o.bbox.y
  right := castInt (o.bbox.w.add o.bbox.x)
  bottom := castInt (o.bbox.h.add o.bbox.y)
  trackId := o.trackId
  likelihood := seenScore x

theorem readObject_objectNode {o : InferObject} {x : BinaryFloat binary32}
    (h : o.score = .finite x) : readObject (objectNode o) = some (seen o x) := by
  have hbox : path ["tt:Appearance", "tt:Shape", "tt:BoundingBox"] (objectNode o) =
      some (.element "tt:BoundingBox" (boxAttributes o) []) := rfl
  have htrack : path ["tt:Appearance", "tt:Shape", "tt:TrackId"] (objectNode o) =
      some (.element "tt:TrackId" [("trackid", toString o.trackId)] []) := rfl
  have hlikelihood : path ["tt:Appearance", "tt:Class", "tt:ClassCandidate", "tt:Likelihood"]
      (objectNode o) = some (.element "tt:Likelihood" [] [.text (fixedTwo o.score)]) := rfl
  have hid : number "ObjectId" (objectNode o) = some o.classId := readInt_toString _
  have hbounds : ∀ key z, (boxAttributes o).lookup key = some (toString z) →
      number key (.element "tt:BoundingBox" (boxAttributes o) []) = some z := by
    intro key z hz
    rw [number, attributeOf, hz]
    exact readInt_toString z
  have htrackid : number "trackid" (.element "tt:TrackId" [("trackid", toString o.trackId)] []) =
      some o.trackId := readInt_toString _
  rw [readObject, hbox, htrack, hlikelihood, hid]
  simp only [Option.bind_eq_bind, Option.bind_some, characters, h, readDecimal_fixedTwo, htrackid,
    hbounds "left" (castInt o.bbox.x) rfl, hbounds "top" (castInt o.bbox.y) rfl,
    hbounds "right" (castInt (o.bbox.w.add o.bbox.x)) rfl,
    hbounds "bottom" (castInt (o.bbox.h.add o.bbox.y)) rfl]
  rfl

theorem mapM_readObject {objects : List InferObject} {x : InferObject → BinaryFloat binary32}
    (h : ∀ o ∈ objects, o.score = .finite (x o)) :
    (objects.map objectNode).mapM readObject = some (objects.map fun o => seen o (x o)) := by
  induction objects with
  | nil => rfl
  | cons o objects ih =>
    rw [List.map_cons, List.mapM_cons, readObject_objectNode (h o List.mem_cons_self),
      ih fun o' ho' => h o' (List.mem_cons_of_mem o ho')]
    rfl

/-- **The metadata of a frame reach a client**: it reads the time of the frame and the objects in
their order, each with its class, the corners of its box without their fractions, its track, and
its score up to half a hundredth. -/
theorem receive_convert (now : EventTime) (ms : ℕ) {objects : List InferObject}
    {x : InferObject → BinaryFloat binary32} (h : ∀ o ∈ objects, o.score = .finite (x o)) :
    receive (convertTrackingBoxesToMetaData now ms objects).1 =
        some (frameTime now ms, objects.map fun o => seen o (x o)) ∧
      ∀ o ∈ objects, |(seen o (x o)).likelihood - (x o).value| ≤ 1 / 200 := by
  refine ⟨?_, fun o _ => seenScore_near (x o)⟩
  have hpath : path ["tt:VideoAnalytics", "tt:Frame"] (metadataNode (frameTime now ms) objects) =
      some (.element "tt:Frame" [("UtcTime", frameTime now ms)] (objects.map objectNode)) := rfl
  obtain ⟨content, hwrites, htext⟩ := exists_content_convert now ms objects
  have hread : read (convertTrackingBoxesToMetaData now ms objects).1 =
      some (metadataNode (frameTime now ms) objects) :=
    read_document ne_of_mem_declaration hwrites htext
  rw [receive, hread]
  simp only [Option.bind_eq_bind, Option.bind_some, hpath, mapM_readObject h]
  rfl

/-- A person at `(10.5, 20)`, forty wide and eighty high, whose score is 0.9. -/
def somebody : InferObject where
  inferEngineId := 1
  classId := 0
  trackId := 7
  score := ofDecimal binary32 false 9 (-1)
  bbox := ⟨ofDecimal _ false 105 (-1), ofInt _ 20, ofInt _ 40, ofInt _ 80⟩
  xyRefType := .ltxType
  coordFormat := .pixelInt
  extendData := []

/-- The fourth of December 2025, a Thursday, at half past three. -/
def afternoon : EventTime := ⟨⟨125, 11, 4, 15, 30, ⟨4, by decide⟩⟩, 0⟩

/-- The finite number that a number is. -/
def finitePart : Single → BinaryFloat binary32
  | .finite x => x
  | .infinite _ => ⟨0, 0, 0, by simp, by simp, by simp⟩

/-- The one behind, whom the tracker has seen before. -/
def somebodyElse : InferObject :=
  { somebody with
    trackId := 3
    score := ofDecimal binary32 false 5 (-1)
    bbox := ⟨ofInt _ 60, ofInt _ 10, ofInt _ 20, ofInt _ 50⟩ }

theorem receive_convert_somebody :
    receive (convertTrackingBoxesToMetaData afternoon 5 [somebody, somebodyElse]).1 =
      some (frameTime afternoon 5,
        [seen somebody (finitePart somebody.score),
          seen somebodyElse (finitePart somebodyElse.score)]) ∧
    seen somebody (finitePart somebody.score) = ⟨0, 10, 20, 50, 100, 7, 9 / 10⟩ ∧
    seen somebodyElse (finitePart somebodyElse.score) = ⟨0, 60, 10, 80, 60, 3, 1 / 2⟩ := by
  have hscore : ∀ o ∈ [somebody, somebodyElse], o.score = .finite (finitePart o.score) := by
    decide +kernel
  exact ⟨(receive_convert _ 5 hscore).1, by decide +kernel, by decide +kernel⟩

end DetectBase.Metadata
