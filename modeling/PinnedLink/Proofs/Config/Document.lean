import PinnedLink.Config.Document
import PinnedLink.Proofs.Json.Printing
import PinnedLink.Proofs.Json.Skipping

/-!
# Documents give the fields that they hold

`DocumentText` says what a document of a configuration looks like when it holds some of its fields:
their order, the blanks, the way in which keys and texts are escaped and what stands under other names
are free.  Such a document is read as the configuration that has these fields, the others fresh
(`parse_of_documentText`).  What `render` writes is one of them that holds every field, so it reads
back.
-/

namespace PinnedLink.Config

open Json (Blanks Ends Letters Whole)
open Text (Digits)

/-! ## Documents -/

/-- How a field of a configuration may be written. -/
inductive ValueText (c : Config) : Field → List Char → Prop where
  | host {cs : List Char} (h : Letters cs c.host.toList) : ValueText c .host ('"' :: (cs ++ ['"']))
  | port {cs : List Char} (hwhole : Whole cs) (h : Digits cs c.port.toNat) : ValueText c .port cs
  | maxBodyLen {cs : List Char} (hwhole : Whole cs) (h : Digits cs c.maxBodyLen.toNat) :
      ValueText c .maxBodyLen cs
  | versions {cs : List Char} (h : Letters cs c.versions.name.toList) :
      ValueText c .versions ('"' :: (cs ++ ['"']))
  | tagged {first cs before after last : List Char} (hfirst : Blanks first)
      (h : Letters cs c.versions.name.toList) (hbefore : Blanks before) (hafter : Blanks after)
      (hlast : Blanks last) :
      ValueText c .versions ('\x7b' :: (first ++ '"' :: (cs ++ '"' :: (before ++ ':' ::
        (after ++ 'n' :: 'u' :: 'l' :: 'l' :: (last ++ ['\x7d']))))))
  | trusted {cs : List Char} {pem : String} (hpem : c.trustedPeerPem = some pem)
      (h : Letters cs pem.toList) : ValueText c .trustedPeerPem ('"' :: (cs ++ ['"']))
  | untrusted (hpem : c.trustedPeerPem = none) : ValueText c .trustedPeerPem Json.renderNull

/-- A member of a document, and the field that it holds if its name is one of a field. -/
inductive MemberText (c : Config) : List Field → List Char → Prop where
  | field {f : Field} {key before after value : List Char} (hkey : Letters key f.name.toList)
      (hbefore : Blanks before) (hafter : Blanks after) (hvalue : ValueText c f value) :
      MemberText c [f] (key ++ '"' :: (before ++ ':' :: (after ++ value)))
  | other {key name before after value : List Char} (hkey : Letters key name)
      (hname : ∀ f : Field, f.name.toList ≠ name) (hbefore : Blanks before)
      (hafter : Blanks after) (hvalue : Json.Value value) :
      MemberText c [] (key ++ '"' :: (before ++ ':' :: (after ++ value)))

/-- The members of a document, and the fields that they hold, in order. -/
inductive MembersText (c : Config) : List Field → List Char → Prop where
  | last {fields : List Field} {before member after : List Char} (hbefore : Blanks before)
      (hmember : MemberText c fields member) (hafter : Blanks after) :
      MembersText c fields (before ++ '"' :: (member ++ after))
  | more {fields behind : List Field} {before member after cs : List Char}
      (hbefore : Blanks before) (hmember : MemberText c fields member) (hafter : Blanks after)
      (h : MembersText c behind cs) :
      MembersText c (fields ++ behind) (before ++ '"' :: (member ++ (after ++ ',' :: cs)))

/-- A document that holds some fields of a configuration. -/
inductive DocumentText (c : Config) : List Field → List Char → Prop where
  | empty {before blanks after : List Char} (hbefore : Blanks before) (hblanks : Blanks blanks)
      (hafter : Blanks after) :
      DocumentText c [] (before ++ '\x7b' :: (blanks ++ '\x7d' :: after))
  | members {fields : List Field} {before cs after : List Char} (hbefore : Blanks before)
      (h : MembersText c fields cs) (hafter : Blanks after) :
      DocumentText c fields (before ++ '\x7b' :: (cs ++ '\x7d' :: after))

/-- Some fields of a configuration, the others fresh. -/
def taking (c : Config) (fields : List Field) : Config where
  host := if .host ∈ fields then c.host else fresh.host
  port := if .port ∈ fields then c.port else fresh.port
  maxBodyLen := if .maxBodyLen ∈ fields then c.maxBodyLen else fresh.maxBodyLen
  versions := if .versions ∈ fields then c.versions else fresh.versions
  trustedPeerPem := if .trustedPeerPem ∈ fields then c.trustedPeerPem else fresh.trustedPeerPem

theorem Field.mem_all (f : Field) : f ∈ Field.all := by cases f <;> decide

theorem taking_all (c : Config) : c.taking Field.all = c := by
  simp only [taking, if_pos (Field.mem_all _)]

theorem lookup_names (p : VersionPolicy) : VersionPolicy.names.lookup p.name = some p := by
  cases p <;> decide

theorem Field.ofName?_name (f : Field) : Field.ofName? f.name = some f := by cases f <;> decide

theorem Field.ofName?_eq_none {name : List Char} (h : ∀ f : Field, f.name.toList ≠ name) :
    Field.ofName? (String.ofList name) = none := by
  refine List.find?_eq_none.2 fun f _ heq => h f ?_
  rw [eq_of_beq heq, String.toList_ofList]

/-! ## Drafts -/

namespace Draft

/-- Some fields of a configuration have been read. -/
def holding (c : Config) (fields : List Field) : Draft where
  host := if .host ∈ fields then some c.host else none
  port := if .port ∈ fields then some c.port else none
  maxBodyLen := if .maxBodyLen ∈ fields then some c.maxBodyLen else none
  versions := if .versions ∈ fields then some c.versions else none
  trustedPeerPem := if .trustedPeerPem ∈ fields then some c.trustedPeerPem else none

theorem holding_nil (c : Config) : holding c [] = empty := rfl

theorem toConfig_holding (c : Config) (fields : List Field) :
    (holding c fields).toConfig = c.taking fields := by
  have hpick : ∀ {α : Type} (f : Field) (a b : α),
      (if f ∈ fields then some a else none).getD b = if f ∈ fields then a else b := by
    intro α f a b
    split <;> rfl
  simp only [toConfig, holding, taking, hpick]

theorem has_holding {c : Config} {fields : List Field} {f : Field} (h : f ∉ fields) :
    (holding c fields).has f = false := by
  cases f <;> simp only [has, holding, if_neg h, Option.isSome_none]

/-- A field read from one of its texts is held. -/
theorem readField_append {c : Config} {f : Field} {bs value rest : List Char}
    (hbs : Blanks bs) (h : ValueText c f value) (hrest : Ends rest) (fields : List Field) :
    (holding c fields).readField f (bs ++ (value ++ rest)) =
      .ok (holding c (fields ++ [f]), rest) := by
  cases h with
  | host h =>
    simp only [List.cons_append, List.append_assoc, List.nil_append, readField]
    rw [Json.readText_append hbs h]
    simp [keep, Except.map, holding]
  | port hwhole h =>
    have hle : c.port.toNat ≤ 65535 := Nat.le_of_lt_succ c.port.toNat_lt
    rw [readField, Json.readNatural_append hbs hwhole h hle (by decide) hrest]
    simp [keep, Except.map, holding]
  | maxBodyLen hwhole h =>
    have hle : c.maxBodyLen.toNat ≤ UInt64.size - 1 := Nat.le_of_lt_succ c.maxBodyLen.toNat_lt
    rw [readField, Json.readNatural_append hbs hwhole h hle (by decide) hrest]
    simp [keep, Except.map, holding]
  | versions h =>
    simp only [List.cons_append, List.append_assoc, List.nil_append, readField]
    rw [Json.readVariant_append hbs h (lookup_names c.versions)]
    simp [keep, Except.map, holding]
  | tagged hfirst h hbefore hafter hlast =>
    simp only [List.cons_append, List.append_assoc, List.nil_append, readField]
    rw [Json.readVariant_tagged hbs hfirst h hbefore hafter hlast (lookup_names c.versions)]
    simp [keep, Except.map, holding]
  | trusted hpem h =>
    simp only [List.cons_append, List.append_assoc, List.nil_append, readField]
    rw [Json.readOption_append hbs h, ← hpem]
    simp [keep, Except.map, holding]
  | untrusted hpem =>
    have hnull : Json.readOption Json.readText (bs ++ (Json.renderNull ++ rest)) =
        .ok (c.trustedPeerPem, rest) := by
      rw [hpem]
      exact Json.readOption_null hbs rest
    rw [readField, hnull]
    simp [keep, Except.map, holding]

/-- A member adds the field that it holds, if it is of one. -/
theorem readMember_append {c : Config} {fields held : List Field} {member rest : List Char}
    (h : MemberText c fields member) (hnodup : (held ++ fields).Nodup) (hrest : Ends rest) :
    (holding c held).readMember (member ++ rest) = .ok (holding c (held ++ fields), rest) := by
  cases h with
  | @field f key before after value hkey hbefore hafter hvalue =>
    have hnew : f ∉ held := fun hmem =>
      (List.nodup_append.1 hnodup).2.2 f hmem f (List.mem_singleton_self f) rfl
    simp only [List.append_assoc, List.cons_append, readMember, Json.readString_append hkey, bind,
      Except.bind, String.ofList_toList, Field.ofName?_name, has_holding hnew, Bool.false_eq_true,
      if_false, Json.expectColon_append hbefore, readField_append hafter hvalue hrest]
  | @other key name before after value hkey hname hbefore hafter hvalue =>
    simp only [List.append_assoc, List.cons_append, readMember, Json.readString_append hkey, bind,
      Except.bind, Field.ofName?_eq_none hname, Json.expectColon_append hbefore,
      Json.skipValue_append hafter hvalue hrest, List.append_nil]

/-! ### The members of an object -/

variable {d d' : Draft} {cs rest : List Char}

/-- Behind a member, the object ends or the next key is read. -/
theorem readMembers_of_readMember (hmember : d.readMember cs = .ok (d', rest)) :
    d.readMembers cs =
      match Json.nextMember rest with
      | .error e => .error e
      | .ok (.closed behind) => .ok (d', behind)
      | .ok (.element behind) => d'.readMembers behind := by
  rw [readMembers]
  split
  · rename_i herror
    cases hmember.symm.trans herror
  · rename_i hok
    cases hmember.symm.trans hok
    split <;> (rename_i hnext; rw [hnext])

/-- The members of a document are read one after the other, from behind the quote of the first key,
and add the fields that they hold, if none of them is held already. -/
theorem readMembers_append {c : Config} {fields : List Field} {cs : List Char}
    (h : MembersText c fields cs) (rest : List Char) :
    ∃ behind, Json.skipBlanks (cs ++ '\x7d' :: rest) = '"' :: behind ∧
      ∀ held : List Field, (held ++ fields).Nodup →
        (holding c held).readMembers behind = .ok (holding c (held ++ fields), rest) := by
  induction h with
  | @last fields before member after hbefore hmember hafter =>
    refine ⟨member ++ (after ++ '\x7d' :: rest), ?_, fun held hnodup => ?_⟩
    · simp only [List.append_assoc, List.cons_append]
      exact Json.skipBlanks_append_cons hbefore rfl _
    · have hends : Ends (after ++ '\x7d' :: rest) :=
        Json.ends_append hafter (Json.ends_closing .object rest)
      have hnext : Json.nextMember (after ++ '\x7d' :: rest) = .ok (.closed rest) := by
        rw [Json.nextMember, Json.skipBlanks_append_cons hafter rfl]
        rfl
      rw [readMembers_of_readMember (readMember_append hmember hnodup hends), hnext]
  | @more fields more before member after cs hbefore hmember hafter h ih =>
    obtain ⟨behind, hstart, hread⟩ := ih
    refine ⟨member ++ (after ++ ',' :: (cs ++ '\x7d' :: rest)), ?_, fun held hnodup => ?_⟩
    · simp only [List.append_assoc, List.cons_append]
      exact Json.skipBlanks_append_cons hbefore rfl _
    · have hends : Ends (after ++ ',' :: (cs ++ '\x7d' :: rest)) :=
        Json.ends_append hafter (Json.ends_comma _)
      have hnext : Json.nextMember (after ++ ',' :: (cs ++ '\x7d' :: rest)) =
          .ok (.element behind) := by
        rw [Json.nextMember, Json.skipBlanks_append_cons hafter rfl]
        simp only [hstart]
      have hsplit : held ++ (fields ++ more) = held ++ fields ++ more :=
        (List.append_assoc _ _ _).symm
      rw [hsplit] at hnodup ⊢
      rw [readMembers_of_readMember
        (readMember_append hmember (List.nodup_append.1 hnodup).1 hends), hnext]
      exact hread _ hnodup

end Draft

/-! ## Reading documents -/

theorem read_of_documentText {c : Config} {fields : List Field} {cs : List Char}
    (hnodup : fields.Nodup) (h : DocumentText c fields cs) :
    ∃ after, Blanks after ∧ read cs = .ok (c.taking fields, after) := by
  cases h with
  | @empty before blanks after hbefore hblanks hafter =>
    have hfirst : Json.firstMember (blanks ++ '\x7d' :: after) = .ok (.closed after) := by
      rw [Json.firstMember, Json.skipBlanks_append_cons hblanks rfl]
      rfl
    refine ⟨after, hafter, ?_⟩
    unfold read
    rw [Json.skipBlanks_append_cons hbefore rfl]
    simp only [hfirst, ← Draft.holding_nil c, Draft.toConfig_holding]
  | @members fields before cs after hbefore h hafter =>
    obtain ⟨behind, hstart, hread⟩ := Draft.readMembers_append h after
    have hfirst : Json.firstMember (cs ++ '\x7d' :: after) = .ok (.element behind) := by
      rw [Json.firstMember, hstart]
      rfl
    have hmembers := hread [] hnodup
    rw [Draft.holding_nil, List.nil_append] at hmembers
    refine ⟨after, hafter, ?_⟩
    unfold read
    rw [Json.skipBlanks_append_cons hbefore rfl]
    simp only [hfirst, hmembers, Except.map, Draft.toConfig_holding]

/-- A document is read as the fields that it holds, the others fresh. -/
theorem parse_of_documentText {c : Config} {fields : List Field} {cs : List Char}
    (hnodup : fields.Nodup) (h : DocumentText c fields cs) :
    parse (String.ofList cs) = .ok (c.taking fields) := by
  obtain ⟨after, hafter, hread⟩ := read_of_documentText hnodup h
  have hend : Json.skipBlanks after = [] := by
    rw [← List.append_nil after, Json.skipBlanks_append hafter]
    rfl
  rw [parse, Json.readAll, String.toList_ofList, hread]
  dsimp only
  rw [hend]

/-! ## Writing documents -/

theorem valueText_renderField (c : Config) (f : Field) : ValueText c f (c.renderField f) := by
  cases f with
  | host => exact .host (Json.letters_flatMap _)
  | port => exact .port (Json.whole_toDigits _) (Text.digits_toDigits _)
  | maxBodyLen => exact .maxBodyLen (Json.whole_toDigits _) (Text.digits_toDigits _)
  | versions => exact .versions (Json.letters_flatMap _)
  | trustedPeerPem =>
    rw [renderField]
    split
    · rename_i pem hpem
      exact .trusted hpem (Json.letters_flatMap _)
    · rename_i hpem
      exact .untrusted hpem

/-- A field in a layout, as it stands in a document. -/
theorem exists_memberText (c : Config) (layout : Json.Layout) (f : Field) :
    ∃ member, MemberText c [f] member ∧
      layout.renderMember f.name (c.renderField f) = layout.lead ++ '"' :: member := by
  obtain ⟨blanks, hblanks, hcolon⟩ := layout.exists_colon
  -- no layout puts blanks between a key and the colon
  refine ⟨f.name.toList.flatMap Json.escapeChar ++ '"' :: ([] ++ ':' :: (blanks ++ c.renderField f)),
    .field (Json.letters_flatMap _) Json.Blanks.nil hblanks (valueText_renderField c f), ?_⟩
  simp only [Json.Layout.renderMember, Json.renderText, hcolon, List.append_assoc,
    List.cons_append, List.nil_append]

theorem membersText_intercalate (c : Config) (layout : Json.Layout) (f : Field)
    (fields : List Field) :
    MembersText c (f :: fields)
      (List.intercalate [','] ((f :: fields).map fun f =>
        layout.renderMember f.name (c.renderField f)) ++ layout.trail) := by
  induction fields generalizing f with
  | nil =>
    obtain ⟨member, hmember, htext⟩ := exists_memberText c layout f
    rw [List.map_singleton, List.intercalate_singleton, htext, List.append_assoc,
      List.cons_append]
    exact .last layout.blanks_lead hmember layout.blanks_trail
  | cons g fields ih =>
    obtain ⟨member, hmember, htext⟩ := exists_memberText c layout f
    have hmore := MembersText.more layout.blanks_lead hmember Json.Blanks.nil (ih g)
    rw [List.map_cons, List.map_cons, List.intercalate_cons_cons, htext]
    simpa only [List.append_assoc, List.cons_append, List.nil_append, List.map_cons] using hmore

/-- What is written for a configuration is a document that holds every field. -/
theorem documentText_render (c : Config) (layout : Json.Layout) :
    DocumentText c Field.all (c.render layout).toList := by
  have hmembers := membersText_intercalate c layout .host
    [.port, .maxBodyLen, .versions, .trustedPeerPem]
  have hdocument := DocumentText.members Json.Blanks.nil hmembers Json.Blanks.nil
  rw [render, String.toList_ofList, Json.Layout.renderObject, List.map_map]
  exact hdocument

theorem parse_render (c : Config) (layout : Json.Layout) : parse (c.render layout) = .ok c := by
  have hparse := parse_of_documentText (by decide) (documentText_render c layout)
  rwa [String.ofList_toList, taking_all] at hparse

/-- What is written reads back, and a document that holds some fields, in any order and among members
of other names, gives these fields, the others fresh. -/
theorem parse_documents :
    (∀ (c : Config) (layout : Json.Layout), parse (c.render layout) = .ok c) ∧
      ∀ (c : Config) (fields : List Field) (cs : List Char), fields.Nodup →
        DocumentText c fields cs → parse (String.ofList cs) = .ok (c.taking fields) := by
  constructor
  · intro c layout
    exact parse_render c layout
  · intro c fields cs hnodup h
    exact parse_of_documentText hnodup h

/-- A list under another name, and the port under an escaped key. -/
theorem parse_port_behind_list :
    parse "\x7b\"list\":[1, \x7b\x7d], \"\\u0070ort\":8080\x7d" =
      .ok (forPeer defaultHost 8080) := by
  have hnil : Blanks [] := Json.Blanks.nil
  have hblank : Blanks [' '] := by simp [Json.Blanks, Json.isBlank]
  have hone : Json.Value _ := .scalar (.magnitude (.parts (Json.whole_toDigits 1) .none .none))
  have hobject : Json.Value _ := .empty (b := .object) hnil
  have hlist : Json.Value _ :=
    .bracket (.more hnil .none hone hnil (.last hblank .none hobject hnil))
  have hother : MemberText (forPeer defaultHost 8080) [] _ :=
    .other (Json.letters_flatMap "list".toList) (by rintro (_ | _ | _ | _ | _) <;> decide)
      hnil hnil hlist
  have hkey := Letters.unit (Json.hexUnit_byte (n := 0x70) (by decide)) rfl rfl
    (Json.letters_flatMap "ort".toList)
  have hport : MemberText (forPeer defaultHost 8080) [.port] _ :=
    .field hkey hnil hnil (.port (Json.whole_toDigits 8080) (Text.digits_toDigits 8080))
  have hdocument := DocumentText.members hnil
    (.more hnil hother hnil (.last hblank hport hnil)) hnil
  exact parse_documents.2 _ _ _ (by decide) hdocument

end PinnedLink.Config
