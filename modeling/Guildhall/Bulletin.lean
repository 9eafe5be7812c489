/-
Guildhall/Bulletin.lean

Announcements.  Titles occur once; the list is in order of age, the newest
first; an update merges what is given and not blank.
-/
import Guildhall.Input
import Guildhall.Store.Session

namespace Guildhall.Bulletin

open Session

/-- The length of a link to an image. -/
def linkLimit : Int := 512

/-- Stops if an announcement has the title, which is also `given` as it came in;
`others` are those that count. -/
def ensureFree (others : List News) (given : Value) (title : String) : Except Stop Unit := do
  checkBytes given
  if others.any (·.title == title) then fail (.alreadyExists .newsTitle)

/-- Adds an announcement. -/
def create (m : Moment) (givenTitle givenText givenLink : Value) : Session News := do
  let title ← Input.text givenTitle "title" (some Input.titleLimit)
  let description ← Input.optionalText givenText "description" none
  let imageLink ← Input.optionalText givenLink "image_link" (some linkLimit)
  reporting (.alreadyExists .newsTitle)
      (storageFailure "create_news" "Could not create news" [("title", .text title)]) <|
    transaction do
      ensureFree (← store).news givenTitle title
      let id ← takeRowId
      let news : News :=
        { id, title, description := description.getD "", imageLink := imageLink.getD "",
          createdAt := m.now }
      checkBytes givenText
      checkBytes givenLink
      run (·.insertNews news)
      flush m .news
      return news

/-- The announcement of an id. -/
def read (given : Value) : Session News := do
  let id ← Input.identifier given "id"
  reportingAs (storageFailure "read_news" "Could not read news" [("news_id", .text id)]) <|
    transaction do
      match (← storeFor given).news? id with
      | some news => return news
      | none => fail (.notFound "News" (.text id))

/-- Every announcement, the newest first. -/
def list : Session (List News) :=
  reportingAs (storageFailure "list_news" "Could not list news" []) <|
    transaction do return (← store).sortedNews

/-- Merges what is given into the announcement of an id. -/
def update (m : Moment) (givenId givenTitle givenText givenLink : Value) : Session News := do
  let id ← Input.identifier givenId "id"
  let title ← Input.optionalText givenTitle "title" (some Input.titleLimit)
  let description ← Input.optionalText givenText "description" none
  let imageLink ← Input.optionalText givenLink "image_link" (some linkLimit)
  reporting (.alreadyExists .newsTitle)
      (storageFailure "update_news" "Could not update news" [("news_id", .text id)]) <|
    transaction do
      let some news := (← storeFor givenId).news? id | fail (.notFound "News" (.text id))
      if let some t := title then
        ensureFree ((← store).news.filter (·.id != id)) givenTitle t
      let merged := { news with
        title := title.getD news.title
        description := description.getD news.description
        imageLink := imageLink.getD news.imageLink }
      checkBytes givenText
      checkBytes givenLink
      run (·.writeNews merged)
      flush m .news
      return merged

end Guildhall.Bulletin
