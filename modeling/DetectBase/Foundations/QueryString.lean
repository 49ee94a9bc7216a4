import Mathlib.Data.List.Basic
import Mathlib.Data.List.TakeWhile

/-!
# Query strings

The query of an address is what follows its first `?`. It is a list of parameters, separated by `&`;
a parameter is a name and a value, separated by its first `=`; and a value can be a list of texts,
separated by commas. Nothing is decoded.

A query that is put together from parameters is read back parameter by parameter
(`DetectBase.QueryString.shown_join`), and what one parameter shows under a key
(`DetectBase.QueryString.shown_param`) depends on its name alone: on what parameters with values
there are in it already, and on whether its last part is the key.
-/

namespace DetectBase.QueryString

variable {α β : Type*} {key name value url : List Char} {texts : List (List Char)}

/-- The query of an address. -/
def query (url : List Char) : List Char := (url.dropWhile (· ≠ '?')).drop 1

/-- The name of a parameter. -/
def nameOf (param : List Char) : List Char := param.takeWhile (· ≠ '=')

/-- The value of a parameter. -/
def valueOf (param : List Char) : List Char := (param.dropWhile (· ≠ '=')).drop 1

/-- The texts of a value. The empty value has none. -/
def pieces (value : List Char) : List (List Char) :=
  if value = [] then [] else value.splitOn ','

/-- The texts of a parameter, if it is one with the given name. -/
def shownBy (key param : List Char) : List (List Char) :=
  if nameOf param = key then pieces (valueOf param) else []

/-- The texts of the parameters with the given name, in order. -/
def shown (key query : List Char) : List (List Char) := (query.splitOn '&').flatMap (shownBy key)

/-- **The values of the parameters with the given name**, split at commas, in order. -/
def valuesOf (key url : List Char) : List (List Char) := shown key (query url)

/-! ### Joining and splitting -/

/-- Texts joined by a character, written out. -/
theorem intercalate_cons (sep : α) (l : List α) (ls : List (List α)) :
    [sep].intercalate (l :: ls) = l ++ ls.flatMap (sep :: ·) := by
  induction ls generalizing l with
  | nil => simp
  | cons l' ls ih => rw [List.intercalate_cons_cons, ih, List.flatMap_cons]; simp

/-- The last part goes on up to the next separator. -/
theorem splitOn_append [BEq α] [LawfulBEq α] {sep : α} {t : List α} (ht : sep ∉ t) {s : List α} :
    ∀ {init : List (List α)} {last : List α}, s.splitOn sep = init ++ [last] →
      (s ++ t).splitOn sep = init ++ [last ++ t] := by
  induction s with
  | nil =>
    intro init last hs
    rw [List.splitOn_nil] at hs
    obtain ⟨rfl, rfl⟩ : init = [] ∧ last = [] := by
      cases init with
      | nil => exact ⟨rfl, (List.singleton_inj.mp hs).symm⟩
      | cons part init => simp at hs
    exact List.splitOn_eq_singleton ht
  | cons c s ih =>
    intro init last hs
    obtain ⟨init', last', hs'⟩ : ∃ init' last', s.splitOn sep = init' ++ [last'] :=
      ⟨_, _, (List.dropLast_append_getLast (List.splitOn_ne_nil sep s)).symm⟩
    rw [List.splitOn_cons_eq_if_modifyHead, hs'] at hs
    rw [List.cons_append, List.splitOn_cons_eq_if_modifyHead, ih hs']
    split_ifs at hs ⊢ with hc
    · rw [← List.cons_append] at hs ⊢
      obtain ⟨rfl, hlast⟩ := List.append_inj' hs rfl
      rw [List.singleton_inj.mp hlast]
    · cases init' with
      | nil =>
        obtain ⟨rfl, hlast⟩ := List.append_inj' (show [] ++ _ = _ from hs) rfl
        rw [← List.singleton_inj.mp hlast]
        rfl
      | cons part init' =>
        obtain ⟨rfl, hlast⟩ := List.append_inj' (show ((c :: part) :: init') ++ _ = _ from hs) rfl
        rw [← List.singleton_inj.mp hlast]
        rfl

/-- No part contains the separator. -/
theorem not_mem_of_mem_splitOn [BEq α] [LawfulBEq α] {sep : α} {s part : List α}
    (hpart : part ∈ s.splitOn sep) : sep ∉ part := by
  induction s generalizing part with
  | nil =>
    rw [List.splitOn_nil, List.mem_singleton] at hpart
    simp [hpart]
  | cons c s ih =>
    rw [List.splitOn_cons_eq_if_modifyHead] at hpart
    split_ifs at hpart with hc
    · obtain rfl | hpart := List.mem_cons.mp hpart
      · exact List.not_mem_nil
      · exact ih hpart
    · obtain ⟨head, rest, heq⟩ := List.exists_cons_of_ne_nil (List.splitOn_ne_nil sep s)
      rw [heq, List.modifyHead_cons] at hpart
      obtain rfl | hpart := List.mem_cons.mp hpart
      · have hhead : sep ∉ head := ih (by rw [heq]; exact List.mem_cons_self)
        rw [List.mem_cons, not_or]
        exact ⟨fun h => hc (by simp [h]), hhead⟩
      · exact ih (by rw [heq]; exact List.mem_cons_of_mem _ hpart)

/-- A text without the separator is split off in front of one. -/
theorem dropWhile_append_cons [DecidableEq α] {sep : α} {s t : List α} (hs : sep ∉ s) :
    (s ++ sep :: t).dropWhile (· ≠ sep) = sep :: t := by
  have hall : ∀ c ∈ s, decide (c ≠ sep) = true :=
    fun c hc => decide_eq_true fun heq => hs (heq ▸ hc)
  rw [List.dropWhile_append_of_pos hall, List.dropWhile_cons_of_neg (by simp)]

theorem takeWhile_append_cons [DecidableEq α] {sep : α} {s t : List α} (hs : sep ∉ s) :
    (s ++ sep :: t).takeWhile (· ≠ sep) = s := by
  have hall : ∀ c ∈ s, decide (c ≠ sep) = true :=
    fun c hc => decide_eq_true fun heq => hs (heq ▸ hc)
  rw [List.takeWhile_append_of_pos hall, List.takeWhile_cons_of_neg (by simp), List.append_nil]

/-! ### Queries that are put together -/

/-- The query of an address that has been begun without one. -/
theorem query_append (hurl : '?' ∉ url) (q : List Char) : query (url ++ '?' :: q) = q := by
  rw [query, dropWhile_append_cons hurl, List.drop_one, List.tail_cons]

/-- A query that goes on, from the first `?` in the address. -/
theorem query_append_of_mem (hurl : '?' ∈ url) (q : List Char) :
    query (url ++ q) = query url ++ q := by
  obtain ⟨before, after, rfl, hbefore⟩ := List.eq_append_cons_of_mem hurl
  rw [List.append_assoc, List.cons_append, query_append hbefore, query_append hbefore]

/-- The texts of a value that is joined from texts without commas. -/
theorem pieces_intercalate (htexts : ∀ text ∈ texts, text ≠ [] ∧ ',' ∉ text) :
    pieces ([','].intercalate texts) = texts := by
  cases texts with
  | nil => rfl
  | cons text texts =>
    have hne : [','].intercalate (text :: texts) ≠ [] := by
      rw [intercalate_cons]
      exact List.append_ne_nil_of_left_ne_nil (htexts text List.mem_cons_self).1 _
    rw [pieces, if_neg hne, List.splitOn_intercalate _ (fun l hl => (htexts l hl).2) nofun]

theorem shown_append (p q : List Char) :
    shown key (p ++ '&' :: q) = shown key p ++ shown key q := by
  rw [shown, List.splitOn_append_cons_self, List.flatMap_append]
  rfl

/-- **A query shows what its parts show**, one after the other. -/
theorem shown_join (p : List Char) (ps : List (List Char)) :
    shown key (p ++ ps.flatMap ('&' :: ·)) = shown key p ++ ps.flatMap (shown key) := by
  induction ps generalizing p with
  | nil => simp
  | cons q ps ih =>
    rw [List.flatMap_cons, List.cons_append, shown_append, ih, List.flatMap_cons]

/-! ### One parameter -/

/-- The parameters that are in a name already. -/
def earlier (name : List Char) : List (List Char) := (name.splitOn '&').dropLast

/-- The last part of a name, which the value belongs to. -/
def final (name : List Char) : List Char := (name.splitOn '&').getLast (List.splitOn_ne_nil _ _)

theorem splitOn_name (name : List Char) : name.splitOn '&' = earlier name ++ [final name] :=
  (List.dropLast_append_getLast _).symm

theorem not_mem_final (name : List Char) : '&' ∉ final name :=
  not_mem_of_mem_splitOn (s := name) (by rw [splitOn_name]; simp)

/-- **The name shows nothing of its own** under the key. -/
def Silent (key name : List Char) : Prop :=
  (∀ param ∈ earlier name, nameOf param = key → valueOf param = []) ∧
    (nameOf (final name) = key → '=' ∉ final name)

instance (key name : List Char) : Decidable (Silent key name) :=
  inferInstanceAs (Decidable (_ ∧ (_ → _)))

/-- The value is shown under the key. -/
def Shows (key name : List Char) : Prop := nameOf (final name) = key ∧ '=' ∉ final name

instance (key name : List Char) : Decidable (Shows key name) :=
  inferInstanceAs (Decidable (_ ∧ _))

theorem pieces_eq_nil_iff : pieces value = [] ↔ value = [] := by
  rw [pieces]
  split_ifs with hvalue
  · exact iff_of_true rfl hvalue
  · exact iff_of_false (List.splitOn_ne_nil _ _) hvalue

theorem shownBy_eq_nil_iff {param : List Char} :
    shownBy key param = [] ↔ (nameOf param = key → valueOf param = []) := by
  rw [shownBy]
  split_ifs with hname
  · rw [pieces_eq_nil_iff]
    exact (imp_iff_right hname).symm
  · exact iff_of_true rfl fun h => absurd h hname

theorem not_mem_nameOf (param : List Char) : '=' ∉ nameOf param := by
  intro hmem
  simpa using List.mem_takeWhile_imp hmem

/-- **What a parameter shows**: something of its own, unless its name is silent, and then its value,
if it is shown. -/
theorem shown_param (key name : List Char) (hvalue : '&' ∉ value) :
    ∃ own, (own = [] ↔ Silent key name) ∧
      shown key (name ++ '=' :: value) = own ++ if Shows key name then pieces value else [] := by
  have hsplit := splitOn_append (t := '=' :: value) (by simpa using hvalue) (splitOn_name name)
  have hshown : shown key (name ++ '=' :: value) =
      (earlier name).flatMap (shownBy key) ++ shownBy key (final name ++ '=' :: value) := by
    rw [shown, hsplit, List.flatMap_append, List.flatMap_singleton]
  have hearlier : (earlier name).flatMap (shownBy key) = [] ↔
      ∀ param ∈ earlier name, nameOf param = key → valueOf param = [] := by
    rw [List.flatMap_eq_nil_iff]
    exact forall₂_congr fun _ _ => shownBy_eq_nil_iff
  rw [hshown]
  by_cases hfinal : '=' ∈ final name
  · -- the value belongs to a parameter that has begun in the name
    obtain ⟨before, after, heq, hbefore⟩ := List.eq_append_cons_of_mem hfinal
    have hname : nameOf (final name ++ '=' :: value) = nameOf (final name) := by
      rw [heq, nameOf, nameOf, takeWhile_append_cons hbefore, List.append_assoc, List.cons_append,
        takeWhile_append_cons hbefore]
    have hvalue : valueOf (final name ++ '=' :: value) ≠ [] := by
      rw [heq, valueOf, List.append_assoc, List.cons_append, dropWhile_append_cons hbefore]
      simp
    have hshows : ¬ Shows key name := fun h => h.2 hfinal
    refine
      ⟨(earlier name).flatMap (shownBy key) ++ shownBy key (final name ++ '=' :: value), ?_, ?_⟩
    · rw [List.append_eq_nil_iff, hearlier, shownBy_eq_nil_iff, hname, Silent]
      refine and_congr_right fun _ => ?_
      exact ⟨fun h hkey => absurd (h hkey) hvalue, fun h hkey => absurd hfinal (h hkey)⟩
    · rw [if_neg hshows, List.append_nil]
  · have hname : nameOf (final name ++ '=' :: value) = nameOf (final name) := by
      rw [nameOf, takeWhile_append_cons hfinal, nameOf, List.takeWhile_eq_self_iff.mpr]
      exact fun c hc => decide_eq_true fun heq => hfinal (heq ▸ hc)
    have hvalue : valueOf (final name ++ '=' :: value) = value := by
      rw [valueOf, dropWhile_append_cons hfinal, List.drop_one, List.tail_cons]
    have hshows : Shows key name ↔ nameOf (final name) = key := and_iff_left hfinal
    refine ⟨(earlier name).flatMap (shownBy key), ?_, ?_⟩
    · rw [hearlier, Silent]
      exact (and_iff_left fun _ => hfinal).symm
    · simp only [shownBy, hname, hvalue, hshows]

/-! ### Names that are the key -/

/-- A key that is the name of a parameter has no `&` in it, and no `=`. -/
def Plain (key : List Char) : Prop := '&' ∉ key ∧ '=' ∉ key

instance (key : List Char) : Decidable (Plain key) := inferInstanceAs (Decidable (_ ∧ _))

theorem plain_nameOf {param : List Char} (hparam : '&' ∉ param) : Plain (nameOf param) :=
  ⟨fun hmem => hparam (List.takeWhile_subset _ hmem), not_mem_nameOf param⟩

theorem nameOf_of_plain (hkey : Plain key) : nameOf key = key :=
  List.takeWhile_eq_self_iff.mpr fun _ hc => decide_eq_true fun heq => hkey.2 (heq ▸ hc)

theorem not_mem_earlier {param : List Char} (hparam : param ∈ earlier name) : '&' ∉ param :=
  not_mem_of_mem_splitOn (s := name) (by rw [splitOn_name]; exact List.mem_append_left _ hparam)

/-- A key that is no name shows nothing. -/
theorem not_shows_of_not_plain (name : List Char) (hkey : ¬ Plain key) :
    Silent key name ∧ ¬ Shows key name := by
  have hfinal : nameOf (final name) ≠ key :=
    fun heq => hkey (heq ▸ plain_nameOf (not_mem_final name))
  refine ⟨⟨fun param hparam heq => ?_, fun heq => absurd heq hfinal⟩, fun h => hfinal h.1⟩
  exact absurd (heq ▸ plain_nameOf (not_mem_earlier hparam)) hkey

/-- A name that is the key is one part. -/
theorem earlier_of_plain (hkey : Plain key) : earlier key = [] ∧ final key = key := by
  have hsplit := splitOn_name key
  rw [List.splitOn_eq_singleton hkey.1] at hsplit
  obtain ⟨hearlier, hfinal⟩ := List.append_inj' (show [] ++ _ = _ from hsplit) rfl
  exact ⟨hearlier.symm, (List.singleton_inj.mp hfinal).symm⟩

theorem silent_self (key : List Char) : Silent key key := by
  by_cases hkey : Plain key
  · obtain ⟨hearlier, hfinal⟩ := earlier_of_plain hkey
    rw [Silent, hearlier, hfinal]
    exact ⟨nofun, fun _ => hkey.2⟩
  · exact (not_shows_of_not_plain key hkey).1

theorem shows_self (hkey : Plain key) : Shows key key := by
  rw [Shows, (earlier_of_plain hkey).2]
  exact ⟨nameOf_of_plain hkey, hkey.2⟩

/-! ### Queries and what they are made of -/

/-- Lists that have nothing to add are not longer. -/
theorem length_flatMap_le {f g : α → List β} {l : List α} (h : ∀ a ∈ l, f a = g a ∨ g a = []) :
    (l.flatMap g).length ≤ (l.flatMap f).length := by
  induction l with
  | nil => exact Nat.le_refl 0
  | cons a l ih =>
    rw [List.flatMap_cons, List.flatMap_cons, List.length_append, List.length_append]
    refine Nat.add_le_add ?_ (ih fun b hb => h b (List.mem_cons_of_mem _ hb))
    obtain heq | hnil := h a List.mem_cons_self
    · rw [heq]
    · rw [hnil]
      exact Nat.zero_le _

/-- **Lists of which one has nothing to add are the same when their parts are.** -/
theorem flatMap_eq_iff {f g : α → List β} {l : List α} (h : ∀ a ∈ l, f a = g a ∨ g a = []) :
    l.flatMap f = l.flatMap g ↔ ∀ a ∈ l, f a = g a := by
  refine ⟨fun heq => ?_, fun heq => List.flatMap_congr heq⟩
  induction l with
  | nil => exact nofun
  | cons a l ih =>
    have hrest := fun b hb => h b (List.mem_cons_of_mem a hb)
    have ha : f a = g a := by
      obtain ha | hnil := h a List.mem_cons_self
      · exact ha
      · -- what `f` has more there, it would have less later
        have hlength := congrArg List.length heq
        rw [List.flatMap_cons, List.flatMap_cons, hnil, List.nil_append, List.length_append]
          at hlength
        have hle := length_flatMap_le hrest
        rw [hnil]
        exact List.length_eq_zero_iff.mp (by omega)
    rw [List.flatMap_cons, List.flatMap_cons, ha, List.append_cancel_left_eq] at heq
    exact List.forall_mem_cons.mpr ⟨ha, ih hrest heq⟩

/-- **A parameter shows exactly what it is to show** when its name is silent, and its value is empty
or shown if and only if it is to be. -/
theorem shown_param_eq_iff {W : Prop} [Decidable W] (hvalue : '&' ∉ value)
    (hW : W → name = key) : shown key (name ++ '=' :: value) = (if W then pieces value else []) ↔
      Silent key name ∧ (value = [] ∨ (Shows key name ↔ W)) := by
  obtain ⟨own, hown, hshown⟩ := shown_param key name hvalue
  rw [hshown]
  constructor
  · intro heq
    have hnil : own = [] := by
      by_cases hw : W
      · exact hown.mpr (hW hw ▸ silent_self _)
      · rw [if_neg hw] at heq
        exact (List.append_eq_nil_iff.mp heq).1
    refine ⟨hown.mp hnil, ?_⟩
    rw [hnil, List.nil_append] at heq
    by_cases hempty : value = []
    · exact .inl hempty
    · have hpieces : pieces value ≠ [] := fun h => hempty (pieces_eq_nil_iff.mp h)
      right
      split_ifs at heq with hshows hw hw
      · exact iff_of_true hshows hw
      · exact absurd heq hpieces
      · exact absurd heq.symm hpieces
      · exact iff_of_false hshows hw
  · rintro ⟨hsilent, hempty | hiff⟩
    · rw [hown.mpr hsilent, pieces_eq_nil_iff.mpr hempty, ite_self, ite_self, List.append_nil]
    · simp only [hown.mpr hsilent, hiff, List.nil_append]

/-- A parameter shows at least what it is to show, unless its key is no name, and then it shows
nothing. -/
theorem shown_param_or {W : Prop} [Decidable W] (hvalue : '&' ∉ value) (hW : W → name = key)
    (hkey : Plain key) : shown key (name ++ '=' :: value) = (if W then pieces value else []) ∨
      (if W then pieces value else []) = [] := by
  by_cases hw : W
  · refine .inl ((shown_param_eq_iff hvalue hW).mpr ?_)
    rw [hW hw]
    exact ⟨silent_self key, .inr (iff_of_true (shows_self hkey) hw)⟩
  · exact .inr (if_neg hw)

theorem shown_param_of_not_plain (hvalue : '&' ∉ value) (hkey : ¬ Plain key) :
    shown key (name ++ '=' :: value) = [] := by
  obtain ⟨own, hown, hshown⟩ := shown_param key name hvalue
  obtain ⟨hsilent, hshows⟩ := not_shows_of_not_plain name hkey
  rw [hshown, hown.mpr hsilent, if_neg hshows, List.append_nil]

/-- **A query shows exactly what its parameters are to show when each of them does.** -/
theorem shown_params_eq_iff {l : List α} (name value : α → List Char) (W : α → Prop)
    [DecidablePred W] (hvalue : ∀ a ∈ l, '&' ∉ value a) (hW : ∀ a ∈ l, W a → name a = key) :
    (l.flatMap fun a => shown key (name a ++ '=' :: value a)) =
        (l.flatMap fun a => if W a then pieces (value a) else []) ↔
      ∀ a ∈ l, Silent key (name a) ∧ (value a = [] ∨ (Shows key (name a) ↔ W a)) := by
  have heach : (∀ a ∈ l, shown key (name a ++ '=' :: value a) =
      if W a then pieces (value a) else []) ↔
        ∀ a ∈ l, Silent key (name a) ∧ (value a = [] ∨ (Shows key (name a) ↔ W a)) :=
    forall₂_congr fun a ha => shown_param_eq_iff (hvalue a ha) (hW a ha)
  rw [← heach]
  by_cases hkey : Plain key
  · exact flatMap_eq_iff fun a ha => shown_param_or (hvalue a ha) (hW a ha) hkey
  · have hnil : ∀ a ∈ l, shown key (name a ++ '=' :: value a) = [] :=
      fun a ha => shown_param_of_not_plain (hvalue a ha) hkey
    rw [eq_comm, flatMap_eq_iff fun a ha => .inr (hnil a ha)]
    exact forall₂_congr fun _ _ => eq_comm

end DetectBase.QueryString
