import Turtle.Proofs.Path.LastComponent
import Turtle.Proofs.Text.Encoded

/-!
# Names of images

An image is saved under a path that ends as the names of images do. If the last component of a
path ends so already, in whatever case, it is kept, and otherwise it is given that end. But a name
has to be text for that to be seen: one that is not UTF-8 is given the end again.

* `Path.EndsAsImage` says of bytes that they end as the names of images do;
* `Path.images_are_named_as_such`: so ends the last component of every path for an image;
* `Path.suffix_is_doubled_behind_stray_byte`: a name that is not text gets the end twice;
* `Path.suffix_is_kept_iff_text`: no other name does.
-/

namespace Turtle.Path

open Text (encode lowerByte)

/-- A name ends as the names of images do, with capital letters of ASCII or small ones. -/
def EndsAsImage (name : Bytes) : Prop :=
  encode imageSuffix <:+ name.map lowerByte

instance (name : Bytes) : Decidable (EndsAsImage name) :=
  inferInstanceAs (Decidable (_ <:+ _))

/-- Bytes are those of a text. -/
def IsText (bytes : Bytes) : Prop :=
  ∃ s, encode s = bytes

theorem ascii_of_mem_imageSuffix : ∀ c ∈ imageSuffix.toList, c.toNat < 0x80 := by
  have hall : imageSuffix.toList.all (fun c => c.toNat < 0x80) = true := by decide
  exact fun c hc => of_decide_eq_true (List.all_eq_true.1 hall c hc)

/-- A text is seen to end as the names of images do just when its bytes end so. -/
theorem endsAsImage_iff {s : String} : endsAsImage s = true ↔ EndsAsImage (encode s) := by
  rw [endsAsImage, List.isSuffixOf_iff_suffix, EndsAsImage, Text.map_lowerByte_encode,
    Text.encode_eq_flatMap]
  constructor
  · rintro ⟨front, hfront⟩
    rw [← hfront, List.flatMap_append]
    exact List.suffix_append _ _
  · exact Text.suffix_of_encode_suffix ascii_of_mem_imageSuffix

theorem endsAsImage_append_imageSuffix (front : Bytes) :
    EndsAsImage (front ++ encode imageSuffix) := by
  have hlower : (encode imageSuffix).map lowerByte = encode imageSuffix := by decide
  rw [EndsAsImage, List.map_append, hlower]
  exact List.suffix_append _ _

/-- What leads to the directory above does not end so. -/
theorem ne_above_of_endsAsImage {name : Bytes} (h : EndsAsImage name) : name ≠ above := by
  rintro rfl
  exact absurd h (by decide)

/-- Text in front of a text of ASCII is text. -/
theorem isText_append_imageSuffix_iff {front : Bytes} :
    IsText (front ++ encode imageSuffix) ↔ IsText front := by
  constructor
  · rintro ⟨s, hs⟩
    have hsuffix : imageSuffix.toList <:+ s.toList := by
      refine Text.suffix_of_encode_suffix ascii_of_mem_imageSuffix ⟨front, ?_⟩
      rw [← Text.encode_eq_flatMap, ← Text.encode_eq_flatMap, hs]
    obtain ⟨chars, hchars⟩ := hsuffix
    have heq : s = String.ofList chars ++ imageSuffix := by
      rw [← String.ofList_toList (s := s), ← hchars, String.ofList_append, String.ofList_toList]
    rw [heq, Text.encode_append] at hs
    exact ⟨_, List.append_cancel_right hs⟩
  · rintro ⟨s, rfl⟩
    exact ⟨s ++ imageSuffix, Text.encode_append s imageSuffix⟩

/-! ## Paths of images -/

/-- A path is that of an image if its last component is text and ends so. -/
theorem isImage_iff {p : Path} :
    p.isImage = true ↔ ∃ name, p.LastComponent name ∧ EndsAsImage name ∧ IsText name := by
  rw [isImage]
  constructor
  · intro h
    split at h
    · next s hs =>
      obtain ⟨name, hname, hdecode⟩ := Option.bind_eq_some_iff.1 hs
      obtain rfl := Text.decode?_eq_some_iff.1 hdecode
      exact ⟨_, (fileName?_eq_some_iff.1 hname).1, endsAsImage_iff.1 h, s, rfl⟩
    · cases h
  · rintro ⟨_, hlast, hends, s, rfl⟩
    rw [fileName?_eq_some_iff.2 ⟨hlast, ne_above_of_endsAsImage hends⟩, Option.bind_some,
      Text.decode?_encode]
    exact endsAsImage_iff.2 hends

theorem asImage_of_isImage {p : Path} (h : p.isImage = true) : p.asImage = p :=
  if_pos h

theorem asImage_of_not_isImage {p : Path} (h : ¬ p.isImage = true) :
    p.asImage = ⟨p.bytes ++ encode imageSuffix⟩ :=
  if_neg h

/-- Only the path of an image is kept. -/
theorem asImage_eq_self_iff {p : Path} : p.asImage = p ↔ p.isImage = true := by
  refine ⟨fun h => ?_, asImage_of_isImage⟩
  by_contra hnot
  rw [asImage_of_not_isImage hnot] at h
  have hsuffix : encode imageSuffix = [] := List.append_right_eq_self.1 (congrArg Path.bytes h)
  exact absurd hsuffix (by decide)

/-- Whatever is behind the last slash, with the end of an image it is the last component. -/
theorem lastComponent_append_imageSuffix (p : Path) :
    LastComponent ⟨p.bytes ++ encode imageSuffix⟩ (p.ending ++ encode imageSuffix) := by
  obtain ⟨front, hbytes, hfront⟩ := p.exists_bytes_eq_append_ending
  have hslash : slash ∉ encode imageSuffix := by decide
  refine ⟨⟨?_, ?_, ?_⟩, front, [], ?_, hfront, .nil⟩
  · exact List.append_ne_nil_of_right_ne_nil _ (by decide)
  · intro hhere
    have hlength := congrArg List.length hhere
    rw [List.length_append, show (encode imageSuffix).length = 11 by decide] at hlength
    exact absurd hlength (by simp [here])
  · exact fun h => (List.mem_append.1 h).elim p.slash_not_mem_ending hslash
  · rw [List.append_nil, ← List.append_assoc, ← hbytes]

/-- Behind the last slash of the path of an image there is text. -/
theorem isText_ending_of_isImage {p : Path} (h : p.isImage = true) : IsText p.ending := by
  obtain ⟨name, hlast, -, htext⟩ := isImage_iff.1 h
  by_cases hending : p.ending = [] ∨ p.ending = here
  · rcases hending with hending | hending
    exacts [⟨"", hending ▸ by decide⟩, ⟨".", hending ▸ by decide⟩]
  · rw [not_or] at hending
    obtain ⟨front, hbytes, hfront⟩ := p.exists_bytes_eq_append_ending
    have hlast' : p.LastComponent p.ending :=
      ⟨⟨hending.1, hending.2, p.slash_not_mem_ending⟩, front, [],
        by rw [List.append_nil, ← hbytes], hfront, .nil⟩
    rwa [hlast'.unique hlast]

/-- Every path for an image is the path that was given or goes on from it with the end of an image,
    and its last component ends so. -/
theorem images_are_named_as_such (p : Path) :
    (p.asImage = p ∨ p.asImage.bytes = p.bytes ++ encode imageSuffix) ∧
      (∃ name, p.asImage.LastComponent name ∧ p.asImage.fileName? = some name ∧
        EndsAsImage name) ∧
      p.bytes <+: p.asImage.bytes := by
  have named {q : Path} {name : Bytes} (hlast : q.LastComponent name) (hends : EndsAsImage name) :
      ∃ name, q.LastComponent name ∧ q.fileName? = some name ∧ EndsAsImage name :=
    ⟨name, hlast, fileName?_eq_some_iff.2 ⟨hlast, ne_above_of_endsAsImage hends⟩, hends⟩
  by_cases h : p.isImage = true
  · obtain ⟨name, hlast, hends, -⟩ := isImage_iff.1 h
    rw [asImage_of_isImage h]
    exact ⟨.inl rfl, named hlast hends, List.prefix_rfl⟩
  · rw [asImage_of_not_isImage h]
    exact ⟨.inr rfl, named p.lastComponent_append_imageSuffix (endsAsImage_append_imageSuffix _),
      List.prefix_append _ _⟩

/-- A path whose last component ends as the names of images do is kept just when that component is
    text. What was given the end once is kept from then on just when there is text behind the last
    slash of the path at first. -/
theorem suffix_is_kept_iff_text (p : Path) :
    (∀ name, p.LastComponent name → EndsAsImage name → (p.asImage = p ↔ IsText name)) ∧
      (p.asImage.asImage = p.asImage ↔ IsText p.ending) := by
  constructor
  · intro name hlast hends
    rw [asImage_eq_self_iff, isImage_iff]
    constructor
    · rintro ⟨name', hlast', -, htext⟩
      rwa [hlast.unique hlast']
    · exact fun htext => ⟨name, hlast, hends, htext⟩
  · by_cases h : p.isImage = true
    · rw [asImage_of_isImage h, asImage_of_isImage h]
      exact iff_of_true rfl (isText_ending_of_isImage h)
    · rw [asImage_of_not_isImage h, asImage_eq_self_iff, isImage_iff,
        ← isText_append_imageSuffix_iff]
      have hlast := p.lastComponent_append_imageSuffix
      constructor
      · rintro ⟨name, hlast', -, htext⟩
        rwa [hlast.unique hlast']
      · exact fun htext => ⟨_, hlast, endsAsImage_append_imageSuffix _, htext⟩

/-- A byte that begins no character, in front of the end of an image: the name ends so, and is
    given that end once more; and so is the path that is made of the byte alone. -/
theorem suffix_is_doubled_behind_stray_byte :
    let name : Bytes := 0xFF :: encode ".scene.json"
    let p : Path := ⟨name⟩
    let stray : Path := ⟨[0xFF]⟩
    p.LastComponent name ∧ EndsAsImage name ∧ p.asImage.bytes = name ++ encode ".scene.json" ∧
      stray.asImage.asImage ≠ stray.asImage := by
  intro name p stray
  exact ⟨⟨⟨by decide, by decide, by decide⟩, [], [], by decide, nofun, .nil⟩, by decide,
    by decide +kernel, by decide +kernel⟩

end Turtle.Path
