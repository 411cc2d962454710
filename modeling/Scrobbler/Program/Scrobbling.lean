import Scrobbler.CommandLine.Command
import Scrobbler.Program.Machine
import Scrobbler.Submission.Basic

/-!
The commands that submit listens: of whole files in batches, and of single tracks.
-/

namespace Scrobbler

namespace Batch

/-- Cuts a list into batches of a size; only the last one may be smaller. A size of zero counts as
one. -/
def chunks {α : Type} (size : Nat) (items : List α) : List (List α) :=
  match items with
  | [] => []
  | item :: rest => (item :: rest.take (size - 1)) :: chunks size (rest.drop (size - 1))
termination_by items.length
decreasing_by
  simp only [List.length_drop, List.length_cons]
  omega

end Batch

namespace Program

open Json (Wire DecodeError)
open CommandLine (TrackOptions)

/-- Reads the listens of files. The first file that cannot be read ends the reading. -/
def readFiles (m : Machine) : List String → Session (Option (List Listen))
  | [] => .done (some [])
  | file :: rest =>
      match m.disk.readText m.workingDirectory file with
      | .error error =>
          .print (Notice.warning ("Cannot read " ++ file ++ ". Err: " ++ error.message))
            (.done none)
      | .ok text =>
          match (Wire.ofText text : Except DecodeError (List Listen)) with
          | .error error =>
              .print (Notice.warning ("Cannot parse " ++ file ++ ". Err: " ++ error.message))
                (.done none)
          | .ok listens =>
              .print (Notice.info ("Read " ++ decimal listens.length ++ " listens from " ++ file))
                ((readFiles m rest).bind fun others => .done (others.map (listens ++ ·)))

/-- What is printed of a submission that is no success. -/
def failureNotice? (label : String) : Checked Submission → Option String
  | .ok (.completed response) =>
      if response.status.isSuccess then none
      else
        some <| Notice.warning <|
          label ++ " failed with status " ++ decimal response.status.code ++ ": " ++
            (ApiError.ofResponse response).message
  | .ok (.abandoned error) =>
      some (Notice.warning (label ++ " abandoned after retries. Err: " ++ error.message))
  | .error error => some (Notice.warning (label ++ " failed. Err: " ++ error.message))

/-- Prints what became of a submission, and returns the response, if there is one. -/
def report (label : String) (outcome : Checked Submission) : Session (Option Response) :=
  let response := outcome.toOption.bind Submission.response?
  match failureNotice? label outcome with
  | some notice => .print notice (.done response)
  | none => .done response

/-- Waits until the server takes requests again, if the response tells that it takes none now. -/
def awaitRateLimit (response : Response) : Session Unit :=
  match response.rateLimit?.filter fun limit => limit.remaining = 0 with
  | some limit =>
      .print (Notice.info ("Rate limit reached, waiting " ++ decimal limit.resetIn ++ "s."))
        (.wait (limit.resetIn * 1000) (.done ()))
  | none => .done ()

/-- Submits one batch of an import, and returns the number of listens that were taken. -/
def importBatch (c : Client) (token : String) (type : ListenType) (label : String)
    (batch : List Listen) : Session Nat :=
  (c.submitListens token type batch).bind fun outcome =>
    (report label outcome).bind fun
      | some response =>
          (awaitRateLimit response).bind fun _ =>
            .done (if response.status.isSuccess then batch.length else 0)
      | none => .done 0

/-- Submits the batches of an import, from number `index` of `total` on, and returns the number of
listens that were taken. -/
def importBatches (c : Client) (token : String) (type : ListenType) (total index : Nat) :
    List (List Listen) → Session Nat
  | [] => .done 0
  | batch :: rest =>
      let label := "Batch " ++ decimal index ++ "/" ++ decimal total
      (importBatch c token type label batch).bind fun taken =>
        (importBatches c token type total (index + 1) rest).bind fun more => .done (taken + more)

/-- Imports the listens of files. Nothing is sent unless all files can be read. -/
def importFiles (m : Machine) (files : List String) (batchSize : Nat) (type : ListenType)
    (given : Option String) : Session Nat :=
  withToken m given fun token =>
    (readFiles m files).bind fun
      | none => .done 1
      | some [] => ending (Notice.success "Nothing to import.") 0
      | some listens =>
          let batches := Batch.chunks batchSize listens
          (importBatches m.client token type batches.length 1 batches).bind fun taken =>
            ending
              (Notice.success
                ("Imported " ++ decimal taken ++ " of " ++ decimal listens.length ++ " listens."))
              0

/-- The listen of a track from the command line. -/
def listenOf (options : TrackOptions) : Listen :=
  let listen :=
    (Listen.ofTrack options.artist options.track).withInfo "submission_client" (.text "lbcli")
  options.release.elim listen fun release => listen.withRelease release

/-- Submits one listen. -/
def submitOne (m : Machine) (token : String) (type : ListenType) (label done : String)
    (listen : Listen) : Session Nat :=
  (m.client.submitListens token type [listen]).bind fun outcome =>
    (report label outcome).bind fun response =>
      if response.any (·.status.isSuccess) then
        ending
          (Notice.success
            (done ++ " " ++ listen.trackMetadata.artistName ++ " - " ++
              listen.trackMetadata.trackName))
          0
      else .done 0

/-- Tells the server what is playing. -/
def nowPlaying (m : Machine) (options : TrackOptions) (given : Option String) : Session Nat :=
  withToken m given fun token =>
    submitOne m token .playingNow "Now playing" "Now playing" (listenOf options)

/-- Submits a listen of the current time. -/
def listen (m : Machine) (options : TrackOptions) (given : Option String) : Session Nat :=
  withToken m given fun token =>
    submitOne m token .single "Listen" "Listened to" ((listenOf options).withListenedAt m.now)

end Program

end Scrobbler
