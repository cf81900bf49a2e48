import Jukebox.Queue.Basic
import Jukebox.Simulation
import Jukebox.Json.Reader
import Jukebox.Json.Writer
import Jukebox.Wire.Playback
import Jukebox.Wire.Catalog
import Jukebox.Text.Basic
import Jukebox.Text.Letters
import Jukebox.Text.Quoted
import Jukebox.Url.Reader
import Jukebox.Subsonic.Client
import Jukebox.Preferences.Basic
import Jukebox.Session
import Jukebox.Settings.Loading
import Jukebox.Proofs.Queue.Transparency
import Jukebox.Proofs.Player.Sparing
import Jukebox.Proofs.Player.NaturalEnd
import Jukebox.Proofs.Player.Discipline
import Jukebox.Proofs.Player.Accord
import Jukebox.Proofs.Player.Emptying
import Jukebox.Proofs.Player.Replica
import Jukebox.Proofs.Player.Staleness
import Jukebox.Proofs.Player.Highlight
import Jukebox.Proofs.Player.Picking
import Jukebox.Proofs.Player.Unattended
import Jukebox.Proofs.Queue.Reading
import Jukebox.Proofs.Player.PlayThrough
import Jukebox.Proofs.Player.Pausing
import Jukebox.Proofs.Player.Retry
import Jukebox.Proofs.Player.Noninterference
import Jukebox.Proofs.Player.LyricsShown
import Jukebox.Proofs.Player.Aftermath
import Jukebox.Proofs.Json.RoundTrip
import Jukebox.Proofs.Player.Loudness
import Jukebox.Proofs.Preferences.Entries
import Jukebox.Proofs.Preferences.Durability
import Jukebox.Proofs.Preferences.Remembering
import Jukebox.Proofs.Text.Utf8
import Jukebox.Proofs.Url.FormReading
import Jukebox.Proofs.Url.Target
import Jukebox.Proofs.Subsonic.Addresses
import Jukebox.Proofs.Queue.Rounds
import Jukebox.Proofs.Player.Refusals
import Jukebox.Proofs.Subsonic.Duplicates
import Jukebox.Proofs.Session.Albums
import Jukebox.Proofs.Player.Choosing
import Jukebox.Proofs.Queue.Neighbours
import Jukebox.Proofs.Player.Neighbours
import Jukebox.Proofs.Session.Connecting
import Jukebox.Proofs.Queue.Walking
import Jukebox.Proofs.Queue.PlayNext
import Jukebox.Proofs.Lyrics.Lines
import Jukebox.Proofs.Lyrics.Retention
import Jukebox.Proofs.Player.Settling
