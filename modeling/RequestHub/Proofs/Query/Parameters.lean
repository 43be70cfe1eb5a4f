import RequestHub.Proofs.Names
import RequestHub.Proofs.Text.Percent
import RequestHub.Request

/-!
# Queries that spell pairs

A form is sent as a query: each pair as the form of its name, an equals sign and the form of its value, with
ampersands between the pairs.  Forms have neither of the two signs, so the query is taken apart where it was
put together, and each component is decoded to the text that it spells.  What a request has as parameters is
the table of the pairs, in which the last value of a name counts: names are compared as texts, however they
were spelled.
-/

namespace RequestHub

namespace Text

/-- Pieces without a separator are cut from what they are joined to. -/
theorem cut_intercalate
    {α : Type}
    [DecidableEq α]
    {separator : α}
    {pieces : List (List α)}
    (some_piece : pieces ≠ [])
    (whole : ∀ piece ∈ pieces, separator ∉ piece) :
    cut separator ([separator].intercalate pieces) = pieces := by
  induction pieces with
  | nil => exact absurd rfl some_piece
  | cons piece pieces ih =>
      obtain ⟨first, others⟩ := List.forall_mem_cons.mp whole
      cases pieces with
      | nil =>
          rw [List.intercalate_singleton]
          exact cut_of_not_mem first
      | cons next pieces =>
          rw [List.intercalate_cons_cons, List.append_assoc, List.singleton_append,
            cut_append_cons first, ih (List.cons_ne_nil _ _) others]

end Text

namespace Query

open Text

/-- A pair as it is written: the forms of its name and its value, and an equals sign between them. -/
inductive PairForm : String × String → List Char → Prop where
  | joined {name value : String} {left right : List Char}
      (named : Percent.Form name.toList left)
      (valued : Percent.Form value.toList right) :
      PairForm (name, value) (left ++ '=' :: right)

/-- A query that is made of the forms of some pairs, with ampersands between them. -/
def Spells (query : String) (pairs : List (String × String)) : Prop :=
  ∃ pieces, List.Forall₂ PairForm pairs pieces ∧ query.toList = ['&'].intercalate pieces

/-- Parameters are the table in which each name of some pairs has its last value. -/
structure Binds (params : Names String) (pairs : List (String × String)) : Prop where
  ordered : params.Ordered
  find?_iff : ∀ {name value}, params.find? name = some value ↔
    ∃ before after, pairs = before ++ (name, value) :: after ∧ name ∉ after.map (·.1)

variable {pairs : List (String × String)} {pair : String × String} {form : List Char}
  {query : String}

/-- Every list of pairs can be spelled. -/
theorem exists_spells (pairs : List (String × String)) : ∃ query, Spells query pairs := by
  refine ⟨String.ofList (['&'].intercalate (pairs.map fun pair =>
    (Percent.encode pair.1).toList ++ '=' :: (Percent.encode pair.2).toList)), _, ?_,
    String.toList_ofList⟩
  rw [List.forall₂_map_right_iff, List.forall₂_same]
  exact fun pair _ => .joined (Percent.form_encode pair.1) (Percent.form_encode pair.2)

namespace PairForm

/-- A pair is one piece of a query, and a piece that counts. -/
theorem whole (spelled : PairForm pair form) : '&' ∉ form ∧ form ≠ [] := by
  obtain ⟨named, valued⟩ := spelled
  refine ⟨?_, List.append_ne_nil_of_right_ne_nil _ (List.cons_ne_nil _ _)⟩
  rw [List.mem_append, List.mem_cons, not_or, not_or]
  exact ⟨named.not_mem (by decide) (by decide) (by decide), by decide,
    valued.not_mem (by decide) (by decide) (by decide)⟩

/-- What is written for a pair is read as the pair. -/
theorem pair_eq (spelled : PairForm pair form) : Query.pair form = pair := by
  obtain ⟨named, valued⟩ := spelled
  rw [Query.pair, cutOnce_append_cons (named.not_mem (by decide) (by decide) (by decide))]
  exact Prod.ext (Percent.decodeForm_of_form named) (Percent.decodeForm_of_form valued)

end PairForm

/-- Each piece is read as its pair, and none of them is cut or passed over. -/
theorem read_pieces
    {pieces : List (List Char)}
    (each : List.Forall₂ PairForm pairs pieces) :
    pieces.map Query.pair = pairs ∧ ∀ piece ∈ pieces, '&' ∉ piece ∧ piece ≠ [] := by
  induction each with
  | nil => exact ⟨rfl, fun piece member => absurd member List.not_mem_nil⟩
  | cons first _ ih =>
      rw [List.map_cons, first.pair_eq, ih.1]
      exact ⟨rfl, List.forall_mem_cons.mpr ⟨first.whole, ih.2⟩⟩

/-- The pairs of a query are those that it spells, in their order. -/
theorem pairs_of_spells (spelled : Spells query pairs) : Query.pairs query = pairs := by
  obtain ⟨pieces, each, joined⟩ := spelled
  obtain ⟨read, whole⟩ := read_pieces each
  rw [Query.pairs, joined]
  cases pieces with
  | nil => exact read
  | cons piece pieces =>
      have counted : (piece :: pieces).filter (fun piece => !piece.isEmpty) = piece :: pieces :=
        List.filter_eq_self.mpr fun piece member => by simpa using (whole piece member).2
      rw [cut_intercalate (List.cons_ne_nil _ _) fun piece member => (whole piece member).1, counted,
        read]

/-- A query of one pair binds a plain name to the value whose encoding it gives. -/
theorem find?_parameters_encode
    {name : String}
    (plain : Percent.Plain name)
    (value : String) :
    (parameters (name ++ "=" ++ Percent.encode value)).find? name = some value := by
  have named := Percent.form_encode name
  rw [(Percent.encode_eq_iff name).mpr plain] at named
  have spelled : Spells (name ++ "=" ++ Percent.encode value) [(name, value)] := by
    refine ⟨_, .cons (.joined named (Percent.form_encode value)) .nil, ?_⟩
    simp
  rw [parameters, pairs_of_spells spelled, Names.find?_ofList, Names.lastUnder_eq_some_iff]
  exact ⟨[], [], rfl, List.not_mem_nil⟩

/-- The table of some pairs binds each name to its last value. -/
theorem binds_ofList (pairs : List (String × String)) : Binds (Names.ofList pairs) pairs where
  ordered := Names.ordered_ofList pairs
  find?_iff := by
    intro name value
    rw [Names.find?_ofList, Names.lastUnder_eq_some_iff]

/--
Every list of pairs can be spelled by a query, and a request whose target has such a query has the last
values of the pairs as its parameters.
-/
theorem spelled_and_bound (pairs : List (String × String)) :
    (∃ query, Spells query pairs) ∧
      ∀ {query}, Spells query pairs →
        ∀ id method scheme authority path headers trailers body,
          Binds (Request.make id method ⟨scheme, authority, path, some query⟩ headers trailers
            body).params pairs := by
  refine ⟨exists_spells pairs, fun {query} spelled id method scheme authority path headers trailers
    body => ?_⟩
  have params : (Request.make id method ⟨scheme, authority, path, some query⟩ headers trailers
      body).params = Names.ofList pairs := by
    change Names.ofList (Query.pairs query) = _
    rw [pairs_of_spells spelled]
  rw [params]
  exact binds_ofList pairs

/-- Some pairs with a name twice, an empty name and a value that has to be encoded. -/
def cutlery : List (String × String) :=
  [("a", "1"), ("", "ü &"), ("a", "")]

theorem spells_cutlery : Spells "a=1&=%c3%BC+%26&a=" cutlery := by
  have letter : Percent.Form ['a'] (['a'] ++ []) := .cons (.itself (by decide)) .nil
  have number : Percent.Form ['1'] (['1'] ++ []) := .cons (.itself (by decide)) .nil
  have umlaut : Percent.CharForm 'ü' (['%', 'c', '3'] ++ (['%', 'B', 'C'] ++ [])) := by
    have bytes : String.utf8EncodeChar 'ü' = [0xC3, 0xBC] := by decide
    refine .encoded ?_
    rw [bytes]
    exact .cons (.digits (.inr (by decide)) (.inl (by decide)))
      (.cons (.digits (.inl (by decide)) (.inl (by decide))) .nil)
  have ampersand : Percent.CharForm '&' (['%', '2', '6'] ++ []) := by
    have bytes : String.utf8EncodeChar '&' = [0x26] := by decide
    refine .encoded ?_
    rw [bytes]
    exact .cons (.digits (.inl (by decide)) (.inl (by decide))) .nil
  have value := Percent.Form.cons umlaut (.cons (.blank rfl) (.cons ampersand .nil))
  exact ⟨_, .cons (.joined letter number) (.cons (.joined .nil value) (.cons (.joined letter .nil) .nil)),
    by decide⟩

theorem spelled_and_bound_cutlery :
    Spells "a=1&=%c3%BC+%26&a=" cutlery ∧
      Binds (Request.make ⟨0⟩ .get ⟨none, "", "/kitchen/drawer", some "a=1&=%c3%BC+%26&a="⟩ [] []
        []).params cutlery :=
  ⟨spells_cutlery, (spelled_and_bound cutlery).2 spells_cutlery ⟨0⟩ .get none "" "/kitchen/drawer" []
    [] []⟩

example : Names.ofList cutlery = [("", "ü &"), ("a", "")] := by
  decide

end Query

end RequestHub
