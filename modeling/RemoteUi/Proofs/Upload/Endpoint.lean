/-
# RemoteUi.Proofs.Upload.Endpoint — what endpoints say, and to which session they go.

An endpoint carries its parameters as a form, and whatever texts they are, they are read off the
address as they were (`endpoints_carry_forms_iff`).  Its path ends with the session's id, so two
sessions have different endpoints and each can be told from its own, as long as both ids are
`Faithful` (`sessions_apart_iff`).

* The address of a session is the client's own with the configured path in place of its path,
  nothing after the path, and the id as one more segment (`sessionUrl_ok`).  The parameters are
  added to that.
* There is no endpoint for an address that loses its place for a path when the configured path
  replaces its own, although it could carry one before (`emptied_path_has_no_endpoint`).  Such an
  address is *bared* by the path.
* Ids are percent-encoded, so that a slash or a percent sign in one does no harm
  (`sessions_apart_slashes`).  A tab or a line break is left out of any address, though, a segment
  that is one dot or two is resolved, and under `file` a drive letter with a bar gets a colon.
  These are what `Faithful` excludes, and an id with a tab shows that it has to
  (`tabbed_session_shares_address`).

Two ids are read back from their own addresses, which gives that the addresses differ.  The other
direction takes a path at which the id would be misread, for each way of being unfaithful
(`faithful_of_percentDecode?`).
-/
import RemoteUi.Proofs.Url.Form
import RemoteUi.Proofs.Url.Segment
import RemoteUi.Upload.Batch

namespace RemoteUi

namespace Upload

variable {origin : Url} {path sessionId : String}

/-! ## The address of a session -/

/-- A session has an address unless the configured path bares the client's. -/
theorem sessionUrl_ok (hbase : origin.isBase = true) (hcarries : ¬ origin.BaredBy path)
    (sessionId : String) : sessionUrl origin path sessionId =
      .ok ((origin.setPath path).withoutTails.pushSegment sessionId) := by
  have hplace : (origin.setPath path).withoutTails.isBase = true :=
    (Url.isBase_setPath_iff hbase path).mpr hcarries
  unfold sessionUrl
  dsimp only
  rw [if_pos hplace]

/-- Otherwise there is none, and the client's own is named. -/
theorem sessionUrl_bared (hbase : origin.isBase = true) (hbared : origin.BaredBy path)
    (sessionId : String) : sessionUrl origin path sessionId =
      .error (.endpoint ("'" ++ origin.text ++ "' cannot carry a path")) := by
  have hplace : ¬ (origin.setPath path).withoutTails.isBase = true := fun hplace =>
    (Url.isBase_setPath_iff hbase path).mp hplace hbared
  unfold sessionUrl
  dsimp only
  rw [if_neg hplace]

/-! ## Parameters -/

/-- Every address that can carry a path gives endpoints whose parameters are read as they were given,
unless the configured path bares it. -/
theorem endpoints_carry_forms_iff (hbase : origin.isBase = true) (path sessionId : String)
    (file : SelectedFile) (requestId : Nat) (fragmentId widgetId : String) :
    ((∃ url, uploadUrl origin path sessionId file = .ok url ∧
        url.CarriesForm [("file_name", file.name), ("type", file.mime)]) ∧
      ∃ url, downloadUrl origin path sessionId requestId fragmentId widgetId = .ok url ∧
        url.CarriesForm [("request_id", toString requestId), ("fragment_id", fragmentId),
          ("widget_id", widgetId)]) ↔
      ¬ origin.BaredBy path := by
  unfold uploadUrl downloadUrl
  constructor
  · rintro ⟨⟨url, hurl, -⟩, -⟩ hbared
    rw [sessionUrl_bared hbase hbared] at hurl
    cases hurl
  · intro hcarries
    have hfragment : ((origin.setPath path).withoutTails.pushSegment sessionId).fragment = none :=
      Url.fragment_pushSegment _ sessionId
    rw [sessionUrl_ok hbase hcarries]
    exact ⟨⟨_, rfl, Url.carriesForm_withQuery hfragment _⟩,
      _, rfl, Url.carriesForm_withQuery hfragment _⟩

/-- The parameters survive whatever is in them. -/
theorem endpoints_carry_forms_signs : ∃ origin, Url.parse "http://example.test:8080/" = .ok origin ∧
    origin.isBase = true ∧
    let file : SelectedFile := ⟨"a&b=c#d%2F+ e\n\u00FC", "text/csv; x=1", 0, 0, [], true⟩
    (∃ url, uploadUrl origin "/uploaded-files" "sid-1" file = .ok url ∧
        url.CarriesForm [("file_name", file.name), ("type", file.mime)]) ∧
      ∃ url, downloadUrl origin "/_download/" "sid-1" 7 "f&widget_id=x" "#" = .ok url ∧
        url.CarriesForm [("request_id", "7"), ("fragment_id", "f&widget_id=x"),
          ("widget_id", "#")] := by
  have hbase : Url.isBase ⟨"http", some ⟨"", "example.test", some 8080⟩, false, "/", none, none⟩ =
      true := rfl
  refine ⟨_, by decide +kernel, hbase, ?_, ?_⟩
  · exact ((endpoints_carry_forms_iff hbase "/uploaded-files" "sid-1" _ 7 "" "").mpr
      fun hbared => by cases hbared.kind).1
  · exact ((endpoints_carry_forms_iff hbase "/_download/" "sid-1" ⟨"", "", 0, 0, [], true⟩ 7
      "f&widget_id=x" "#").mpr fun hbared => by cases hbared.kind).2

/-- An address that carries a path has no endpoint under an empty one, if it has no authority. -/
theorem emptied_path_has_no_endpoint : ∃ origin, Url.parse "foo:/p" = .ok origin ∧
    origin.isBase = true ∧
    downloadUrl origin "" "s" 7 "f" "w" = .error (.endpoint "'foo:/p' cannot carry a path") ∧
    (downloadUrl origin "/" "s" 7 "f" "w").map Url.text =
      .ok "foo:/s?request_id=7&fragment_id=f&widget_id=w" := by
  exact ⟨⟨"foo", none, false, "/p", none, none⟩, by decide +kernel, rfl, rfl, by decide +kernel⟩

/-! ## Sessions -/

/-- Under a path two sessions have addresses of their own, and the last segment of each is the id of its
session. -/
def KeepsApart (origin : Url) (path a b : String) : Prop :=
  ∃ u v, sessionUrl origin path a = .ok u ∧ sessionUrl origin path b = .ok v ∧ u.path ≠ v.path ∧
    Url.percentDecode? u.lastSegment = some a ∧ Url.percentDecode? v.lastSegment = some b

/-- A faithful id is the last segment of the session's address. -/
theorem percentDecode?_sessionUrl (hbase : origin.isBase = true) (hhosted : origin.Hosted)
    (hcarries : ¬ origin.BaredBy path) (h : Url.Faithful origin.kind sessionId) :
    ∃ u, sessionUrl origin path sessionId = .ok u ∧
      Url.percentDecode? u.lastSegment = some sessionId := by
  refine ⟨_, sessionUrl_ok hbase hcarries sessionId, ?_⟩
  have hkind : (origin.setPath path).withoutTails.kind = origin.kind :=
    Url.kind_setPath origin path
  exact Url.percentDecode?_pushSegment (Url.head?_setPath hbase hhosted path) (hkind ▸ h)

/-- An id that is read back under every path is faithful. -/
theorem faithful_of_percentDecode? (hbase : origin.isBase = true)
    (h : ∀ path, ¬ origin.BaredBy path → ∃ u, sessionUrl origin path sessionId = .ok u ∧
      Url.percentDecode? u.lastSegment = some sessionId) : Url.Faithful origin.kind sessionId := by
  have hread : ∀ path, ¬ origin.BaredBy path → Url.percentDecode?
      ((origin.setPath path).withoutTails.pushSegment sessionId).lastSegment = some sessionId := by
    intro path hcarries
    obtain ⟨u, hu, hlast⟩ := h path hcarries
    obtain rfl := Except.ok.inj ((sessionUrl_ok hbase hcarries sessionId).symm.trans hu)
    exact hlast
  have hsingle := hread "/a" (Url.not_baredBy rfl)
  obtain ⟨hunbroken, hdot, hdots⟩ :=
    Url.plain_of_percentDecode?_pushSegment (Url.path_setPath_single hbase) hsingle
  refine ⟨hunbroken, hdot, hdots, fun hkind a ha hdrive => ?_⟩
  have hroot := hread "/" (Url.not_baredBy rfl)
  have hkind' : (origin.setPath "/").withoutTails.kind = .file :=
    (Url.kind_setPath origin "/").trans hkind
  -- the bar has become a colon
  have hcolon := Url.percentDecode?_pushSegment_drive hkind' (Url.path_setPath_root hbase hkind) ha hdrive
  have hsame := Option.some.inj (hroot.symm.trans hcolon)
  rw [hsame, String.toList_ofList] at hdrive
  cases hdrive

/-- Two sessions are kept apart under every path that the address can carry exactly if both ids are
faithful. -/
theorem sessions_apart_iff (hbase : origin.isBase = true) (hhosted : origin.Hosted) {a b : String}
    (hne : a ≠ b) : (∀ path, ¬ origin.BaredBy path → KeepsApart origin path a b) ↔
      Url.Faithful origin.kind a ∧ Url.Faithful origin.kind b := by
  constructor
  · intro h
    refine ⟨faithful_of_percentDecode? hbase fun path hcarries => ?_,
      faithful_of_percentDecode? hbase fun path hcarries => ?_⟩
    · obtain ⟨u, v, hu, hv, -, hreadu, hreadv⟩ := h path hcarries
      exact ⟨u, hu, hreadu⟩
    · obtain ⟨u, v, hu, hv, -, hreadu, hreadv⟩ := h path hcarries
      exact ⟨v, hv, hreadv⟩
  · rintro ⟨ha, hb⟩ path hcarries
    obtain ⟨u, hu, hreadu⟩ := percentDecode?_sessionUrl hbase hhosted hcarries ha
    obtain ⟨v, hv, hreadv⟩ := percentDecode?_sessionUrl hbase hhosted hcarries hb
    refine ⟨u, v, hu, hv, fun hpath => hne ?_, hreadu, hreadv⟩
    have hlast : u.lastSegment = v.lastSegment := by rw [Url.lastSegment, hpath, Url.lastSegment]
    rw [hlast, hreadv] at hreadu
    exact (Option.some.inj hreadu).symm

/-- Ids that look encoded, or like several segments, are told apart. -/
theorem sessions_apart_slashes : ∃ origin, Url.parse "http://example.test:8080/" = .ok origin ∧
    origin.isBase = true ∧ origin.Hosted ∧ "a/b" ≠ "a%2Fb" ∧
    ∀ path, ¬ origin.BaredBy path → KeepsApart origin path "a/b" "a%2Fb" := by
  let origin : Url := ⟨"http", some ⟨"", "example.test", some 8080⟩, false, "/", none, none⟩
  have hparse : Url.parse "http://example.test:8080/" = .ok origin := by decide +kernel
  have hbase : origin.isBase = true := rfl
  have hhosted : origin.Hosted := Url.hosted_of_parse hparse
  have hne : "a/b" ≠ "a%2Fb" := by decide
  refine ⟨origin, hparse, hbase, hhosted, hne, (sessions_apart_iff hbase hhosted hne).mpr ⟨?_, ?_⟩⟩
  · exact ⟨rfl, by decide, by decide, nofun⟩
  · exact ⟨rfl, by decide, by decide, nofun⟩

/-- A tab in an id is left out, so that two sessions share an address. -/
theorem tabbed_session_shares_address : ∃ origin, Url.parse "http://h/" = .ok origin ∧
    origin.isBase = true ∧ "a\tb" ≠ "ab" ∧ ∃ u, sessionUrl origin "/u" "a\tb" = .ok u ∧
      sessionUrl origin "/u" "ab" = .ok u ∧ u.path = "/u/ab" := by
  exact ⟨⟨"http", some ⟨"", "h", none⟩, false, "/", none, none⟩, by decide +kernel, rfl, by decide,
    _, rfl, rfl, rfl⟩

end Upload

end RemoteUi
