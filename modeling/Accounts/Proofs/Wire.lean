import Accounts.Proofs.Time.Rfc3339
import Accounts.Proofs.Token.RoundTrip
import Accounts.Proofs.Uuid
import Accounts.Wire

/-! Documents are read back as what they were written for. Texts are escaped and unescaped,
identifiers and instants are written in one notation of several, and the members of a record are
written in order. -/

namespace Accounts.Wire

open Json Text

theorem uuid_reads (id : Uuid) : Reads uuid (Value.text id.render).bytes id :=
  textAs_reads id.parse?_render

theorem instant_reads (instant : Time.Instant) :
    Reads Wire.instant (Value.text instant.render).bytes instant :=
  textAs_reads instant.parse?_render

theorem Profile.reader_reads (profile : Profile) :
    Reads Profile.reader profile.document.bytes profile := by
  have inOrder : Profile.members.InOrder _ (profile.id, profile.username, profile.email,
      profile.role, profile.createdAt, profile.updatedAt, ()) :=
    .cons (uuid_reads profile.id) (by simp) <|
    .cons (text_reads profile.username) (by simp) <|
    .cons (text_reads profile.email) (by simp) <|
    .cons (text_reads profile.role) (by simp) <|
    .cons (instant_reads profile.createdAt) (by simp) <|
    .cons (instant_reads profile.updatedAt) (by simp) .nil
  intro rest ends
  have read := inOrder.reads rest ends
  rw [Profile.reader, Profile.document, bind_of_ok read]
  rfl

theorem Session.reader_reads (session : Session) :
    Reads Session.reader session.document.bytes session := by
  have inOrder : Members.InOrder (.cons "token" text none <| .cons "user" Profile.reader none .nil)
      _ (session.token, session.user, ()) :=
    .cons (text_reads session.token) (by simp) <|
    .cons (Profile.reader_reads session.user) (by simp) .nil
  intro rest ends
  have read := inOrder.reads rest ends
  rw [Session.reader, Session.document, bind_of_ok read]
  rfl

theorem Message.reader_reads (message : Message) :
    Reads Message.reader message.document.bytes message := by
  have inOrder : Members.InOrder (.cons "message" text none .nil) _ (message.message, ()) :=
    .cons (text_reads message.message) (by simp) .nil
  intro rest ends
  have read := inOrder.reads rest ends
  rw [Message.reader, Message.document, bind_of_ok read]
  rfl

theorem AdminMessage.reader_reads (message : AdminMessage) :
    Reads AdminMessage.reader message.document.bytes message := by
  have inOrder : Members.InOrder (.cons "message" text none <| .cons "user" text none .nil) _
      (message.message, message.user, ()) :=
    .cons (text_reads message.message) (by simp) <|
    .cons (text_reads message.user) (by simp) .nil
  intro rest ends
  have read := inOrder.reads rest ends
  rw [AdminMessage.reader, AdminMessage.document, bind_of_ok read]
  rfl

/-- Whether a value is read back from its document, and what is read back has the same text. -/
structure RoundTrips {α : Type} (reader : Reader α) (document : α → Value) (value : α) : Prop where
  reads : readAll reader (utf8 (document value).render) = .ok value
  rewrites : ∀ again, readAll reader (utf8 (document value).render) = .ok again →
    (document again).render = (document value).render

theorem roundTrips_of_reads {α : Type} {reader : Reader α} {document : α → Value} {value : α}
    (reads : Reads reader (document value).bytes value) : RoundTrips reader document value := by
  have read : readAll reader (utf8 (document value).render) = .ok value := by
    have whole := reads [] ends_nil
    rw [List.append_nil] at whole
    rw [utf8_render, readAll_of_ok whole]
  constructor
  · exact read
  · intro again same
    rw [read] at same
    rw [Except.ok.inj same]

/-- Documents are read back as what they were written for, and written again alike. Texts may hold
any characters, an instant may be any from the first year to the last, within a leap second or not,
and the numbers of a session any of 64 bits. -/
theorem documents_are_read_back :
    (∀ profile, RoundTrips Profile.reader Profile.document profile) ∧
    (∀ session, RoundTrips Session.reader Session.document session) ∧
    (∀ message, RoundTrips Message.reader Message.document message) ∧
    (∀ message, RoundTrips AdminMessage.reader AdminMessage.document message) ∧
    ∀ claims : Token.Claims, claims.Fits →
      RoundTrips Token.Claims.reader Token.Claims.document claims := by
  refine ⟨?_, ?_, ?_, ?_, ?_⟩
  · intro profile
    exact roundTrips_of_reads profile.reader_reads
  · intro session
    exact roundTrips_of_reads session.reader_reads
  · intro message
    exact roundTrips_of_reads message.reader_reads
  · intro message
    exact roundTrips_of_reads message.reader_reads
  · intro claims fits
    exact roundTrips_of_reads (Token.Claims.reader_reads fits)

/-- A profile whose times are a leap second before the year 0 and the last nanosecond there is, and
claims with a text of quotes, controls and other characters and the least and greatest numbers. -/
theorem documents_are_read_back_extreme :
    let leap : Time.Instant := ⟨-62167219201, 1500000000, by decide, by decide, by decide⟩
    let last : Time.Instant := ⟨Time.lastSecond, 999999999, by decide, by decide, by decide⟩
    let profile : Wire.Profile := ⟨.zero, "\"\\", "\n\u0001", "\u00E9\u2028", leap, last⟩
    let claims : Token.Claims :=
      ⟨"\"\\", "\n\u0001", "\u00E9", -0x8000000000000000, 0x7FFFFFFFFFFFFFFF⟩
    leap.render = "-0001-12-31T23:59:60.500Z" ∧
    last.render = "+262142-12-31T23:59:59.999999999Z" ∧
    readAll Profile.reader (utf8 profile.document.render) = .ok profile ∧
    claims.Fits ∧ readAll Token.Claims.reader (utf8 claims.document.render) = .ok claims := by
  intro leap last profile claims
  obtain ⟨profiles, -, -, -, sessions⟩ := documents_are_read_back
  have fits : claims.Fits := ⟨by decide, by decide, by decide, by decide⟩
  refine ⟨?_, ?_, (profiles profile).reads, fits, (sessions claims fits).reads⟩
  · decide +kernel
  · decide +kernel

end Accounts.Wire
