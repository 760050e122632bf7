import Questionnaire.Cbor.Writer
import Questionnaire.CommandLine.World
import Questionnaire.Main
import Questionnaire.Proofs.Interview.Outcome
import Questionnaire.Service.Session
import Questionnaire.Proofs.Document.Texts
import Questionnaire.Proofs.Preview.Status
import Questionnaire.Proofs.Document.Labels
import Questionnaire.Proofs.Visibility.Dangling
import Questionnaire.Proofs.Json.Depth
import Questionnaire.Proofs.Service.Session
import Questionnaire.Proofs.Service.Handover
import Questionnaire.Proofs.Writer.Groups
import Questionnaire.Proofs.Cbor.Reread
import Questionnaire.Proofs.Batch.Folder
import Questionnaire.Proofs.Answers.OutOfSight
import Questionnaire.Proofs.Answers.AsTexts
import Questionnaire.Proofs.Preview.Reordering
import Questionnaire.Proofs.Validation.Schema
import Questionnaire.Proofs.Interview.Faithful
import Questionnaire.Proofs.Service.Outcome
import Questionnaire.Proofs.Number.Value
import Questionnaire.Proofs.Schema.Meaning
import Questionnaire.Proofs.Schema.Answers
import Questionnaire.Proofs.Outline.Order
import Questionnaire.Proofs.Outline.Depth
import Questionnaire.Proofs.Writer.Tables
import Questionnaire.Proofs.Document.Hiding
import Questionnaire.Proofs.Lint.Places
import Questionnaire.Proofs.Lint.Options
import Questionnaire.Proofs.Interview.Accepted
import Questionnaire.Proofs.Writer.Refusal
import Questionnaire.Proofs.Writer.Shape
import Questionnaire.Proofs.Form.Naming
import Questionnaire.Proofs.Writer.Lines
import Questionnaire.Proofs.Number.Rounding
import Questionnaire.Proofs.Number.Shortest
import Questionnaire.Proofs.Form.Spellings
import Questionnaire.Proofs.Validation.Texts
import Questionnaire.Proofs.CommandLine.Document
